import CodeAtlas.Atlas.Tree
import CodeAtlas.Proofs.Layout

/-!
# The files of a tree, and the tree without them

- `TreeNode.placed`: the files of a tree, with the names that lead to them.
- `TreeNode.skeleton`: a tree without symbols and statuses.
- `TreeNode.files_eq_map_placed`: the files of a tree are those that names lead to.
- `Layout.placedAll`: the scripts of layouts, with the names that lead to them.
- `Layout.placedAll_fillAll`, `Layout.skeleton_fillAll`: both of a project tree of layouts.
-/

namespace CodeAtlas

namespace TreeNode

mutual

/-- The files of a tree, with the names that lead to them from its root. -/
def placed : TreeNode → List (List String × FileNode)
  | directory _ children => placedAll children
  | file f => [([], f)]

def placedAll : List TreeNode → List (List String × FileNode)
  | [] => []
  | first :: rest => (placed first).map (fun p => (first.name :: p.1, p.2)) ++ placedAll rest

end

mutual

def skeleton : TreeNode → TreeNode
  | directory name children => directory name (skeletons children)
  | file f => file { f with symbols := [], status := .parsed }

def skeletons : List TreeNode → List TreeNode
  | [] => []
  | first :: rest => skeleton first :: skeletons rest

end

mutual

/-- The files of a tree are those that are placed in it. -/
theorem map_placed : ∀ t : TreeNode, t.placed.map (·.2) = t.fileList
  | directory _ children => by rw [placed, map_placedAll children, fileList]
  | file f => by simp [placed, fileList]

theorem map_placedAll : ∀ trees, (placedAll trees).map (·.2) = fileLists trees
  | [] => rfl
  | first :: rest => by
    have hfirst := map_placed first
    have hrest := map_placedAll rest
    rw [placedAll, List.map_append, hrest, fileLists, ← hfirst]
    simp

end

theorem fileLists_append (trees more : List TreeNode) :
    fileLists (trees ++ more) = fileLists trees ++ fileLists more := by
  induction trees with
  | nil => rfl
  | cons first rest ih => simp [fileLists, ih]

/-- The walk with a stack meets the files of the trees on the stack in their order. -/
theorem filesFrom_eq_fileLists (stack : List TreeNode) : filesFrom stack = fileLists stack := by
  fun_induction filesFrom stack with
  | case1 => rfl
  | case2 f stack ih => rw [ih, fileLists, fileList, List.singleton_append]
  | case3 name children stack ih => rw [ih, fileLists_append, fileLists, fileList]

/-- The walk with a stack gives the files that the recursion gives. -/
theorem files_eq_fileList (t : TreeNode) : t.files = t.fileList := by
  rw [files, filesFrom_eq_fileLists, fileLists, fileLists, List.append_nil]

/-- The files of a tree are those that names lead to. -/
theorem files_eq_map_placed (t : TreeNode) : t.files = t.placed.map (·.2) := by
  rw [files_eq_fileList, map_placed]

end TreeNode

namespace Layout

def name : Layout → Name
  | script source => source.name
  | directory name _ => name

mutual

/-- The scripts of a layout, with the names that lead to them from its root. -/
def placed : Layout → List (List Name × ScriptFile)
  | script source => [([], source)]
  | directory _ children => placedAll children

def placedAll : List Layout → List (List Name × ScriptFile)
  | [] => []
  | first :: rest => (placed first).map (fun p => (first.name :: p.1, p.2)) ++ placedAll rest

end

/-- A script among layouts is one of a layout, behind the name of this layout. -/
theorem mem_placedAll {layouts : List Layout} {p : List Name × ScriptFile} :
    p ∈ placedAll layouts ↔ ∃ l ∈ layouts, ∃ q ∈ l.placed, p = (l.name :: q.1, q.2) := by
  induction layouts with
  | nil => simp [placedAll]
  | cons first rest ih =>
    simp only [placedAll, List.mem_append, List.mem_map, ih, List.mem_cons, exists_eq_or_imp]
    simp only [eq_comm]

theorem mem_placedAll_flatMap {α : Type} {items : List α} {layouts : α → List Layout}
    {p : List Name × ScriptFile} :
    p ∈ placedAll (items.flatMap layouts) ↔ ∃ e ∈ items, p ∈ placedAll (layouts e) := by
  simp only [mem_placedAll, List.mem_flatMap]
  constructor
  · rintro ⟨l, ⟨e, he, hl⟩, hp⟩
    exact ⟨e, he, l, hl, hp⟩
  · rintro ⟨e, he, l, hl, hp⟩
    exact ⟨l, ⟨e, he, hl⟩, hp⟩

/-! ## Project trees -/

variable {read : ScriptFile → FileNode}

def placeRead (read : ScriptFile → FileNode) (p : List Name × ScriptFile) :
    List String × FileNode :=
  (p.1.map String.ofList, read p.2)

@[simp]
theorem placeRead_fst (read : ScriptFile → FileNode) (p : List Name × ScriptFile) :
    (placeRead read p).1 = p.1.map String.ofList := rfl

@[simp]
theorem placeRead_snd (read : ScriptFile → FileNode) (p : List Name × ScriptFile) :
    (placeRead read p).2 = read p.2 := rfl

theorem name_fill (hread : ∀ source, (read source).name = String.ofList source.name)
    (l : Layout) : (l.fill read).name = String.ofList l.name := by
  cases l with
  | script source => exact hread source
  | directory name children => rfl

mutual

/-- A layout is filled by what is read of its own scripts only. -/
theorem fill_congr {read' : ScriptFile → FileNode} :
    ∀ l : Layout, (∀ p ∈ l.placed, read' p.2 = read p.2) → l.fill read' = l.fill read
  | script source, h => by rw [fill, fill, h ([], source) (by simp [placed])]
  | directory name children, h => by rw [fill, fill, fillAll_congr children h]

/-- Only how the scripts of some layouts are read matters for their project trees. -/
theorem fillAll_congr {read' : ScriptFile → FileNode} :
    ∀ layouts, (∀ p ∈ placedAll layouts, read' p.2 = read p.2) →
      fillAll read' layouts = fillAll read layouts
  | [], _ => rfl
  | first :: rest, h => by
    have hfirst : ∀ p ∈ first.placed, read' p.2 = read p.2 := fun p hp =>
      h (first.name :: p.1, p.2) (mem_placedAll.2 ⟨first, List.mem_cons_self, p, hp, rfl⟩)
    have hrest : ∀ p ∈ placedAll rest, read' p.2 = read p.2 := fun p hp =>
      h p (List.mem_append_right _ hp)
    rw [fillAll, fillAll, fill_congr first hfirst, fillAll_congr rest hrest]

end

mutual

/-- Scripts stand in the filled tree where they stand in the layout. -/
theorem placed_fill (hread : ∀ source, (read source).name = String.ofList source.name) :
    ∀ l : Layout, (l.fill read).placed = l.placed.map (placeRead read)
  | script _ => by simp [fill, TreeNode.placed, placed, placeRead]
  | directory _ children => by
    rw [fill, TreeNode.placed, placed, placedAll_fillAll hread children]

/-- The files of a project tree are the scripts of the layouts, read. -/
theorem placedAll_fillAll (hread : ∀ source, (read source).name = String.ofList source.name) :
    ∀ layouts, TreeNode.placedAll (fillAll read layouts)
      = (placedAll layouts).map (placeRead read)
  | [] => rfl
  | first :: rest => by
    have hfirst := placed_fill hread first
    have hrest := placedAll_fillAll hread rest
    rw [fillAll, TreeNode.placedAll, hfirst, hrest, name_fill hread, placedAll]
    simp [placeRead, Function.comp_def]

end

/-- The files of project trees, without the names that lead to them. -/
theorem fileLists_fillAll (hread : ∀ source, (read source).name = String.ofList source.name)
    (layouts : List Layout) :
    TreeNode.fileLists (fillAll read layouts) = (placedAll layouts).map fun p => read p.2 := by
  rw [← TreeNode.map_placedAll, placedAll_fillAll hread, List.map_map]
  rfl

def bare (source : ScriptFile) : FileNode :=
  ⟨String.ofList source.name, [], source.language, .parsed⟩

mutual

/-- Symbols and statuses are all that reading adds to a layout. -/
theorem skeleton_fill (hname : ∀ source, (read source).name = String.ofList source.name)
    (hlanguage : ∀ source, (read source).language = source.language) :
    ∀ l : Layout, (l.fill read).skeleton = l.fill bare
  | script _ => by simp [fill, TreeNode.skeleton, bare, hname, hlanguage]
  | directory _ children => by
    rw [fill, TreeNode.skeleton, fill, skeleton_fillAll hname hlanguage children]

/-- The skeleton of a project tree does not depend on how the scripts are read. -/
theorem skeleton_fillAll (hname : ∀ source, (read source).name = String.ofList source.name)
    (hlanguage : ∀ source, (read source).language = source.language) :
    ∀ layouts, TreeNode.skeletons (fillAll read layouts) = fillAll bare layouts
  | [] => rfl
  | first :: rest => by
    rw [fillAll, TreeNode.skeletons, skeleton_fill hname hlanguage first,
      skeleton_fillAll hname hlanguage rest, fillAll]

end

end Layout

end CodeAtlas
