import CodeAtlas.Proofs.TwoScans

/-!
# Every node has an address

The names on the way to a node of a scanned tree lead to this node and to no other, since names
differ among siblings and hold no slash.

- `TreeNode.Descends`: names lead from a node to one below it.
- `TreeNode.Orderly`: the names of children rise, and they are names that a directory may hold.
- `TreeNode.follow_eq_some_iff`: following names in an orderly tree descends along them.
- `TreeNode.pathParts_intercalate`: names that are joined by slashes are the parts of the path.
- `ListsEntries.orderly`: what a walk lists is orderly, once it is read.
- `scanProject_addressable`: every node of a scan has an address.
-/

namespace CodeAtlas

namespace TreeNode

/-- The names lead from a node to a node below it; no names lead to the node itself. -/
inductive Descends : TreeNode → List String → TreeNode → Prop where
  | here (t : TreeNode) : Descends t [] t
  | child {name : String} {children : List TreeNode} {c n : TreeNode} {names : List String} :
      c ∈ children → Descends c names n → Descends (.directory name children) (c.name :: names) n

def Rise (trees : List TreeNode) : Prop :=
  trees.Pairwise fun a b => encodeUtf8 a.name.toList < encodeUtf8 b.name.toList

/-- In every directory of a tree the names of the children rise, and a directory may hold them. -/
inductive Orderly : TreeNode → Prop where
  | file (f : FileNode) : Orderly (.file f)
  | directory {name : String} {children : List TreeNode} :
      Rise children → (∀ c ∈ children, Name.IsProper c.name.toList) →
        (∀ c ∈ children, Orderly c) → Orderly (.directory name children)

/-- What is below an orderly tree is orderly. -/
theorem Orderly.of_descends {t n : TreeNode} {names : List String} (ht : t.Orderly)
    (h : t.Descends names n) : n.Orderly := by
  induction h with
  | here t => exact ht
  | child hmem _ ih =>
    cases ht with
    | directory _ _ hall => exact ih (hall _ hmem)

/-- The names on the way to a node are names that a directory may hold. -/
theorem Orderly.isProper_of_descends {t n : TreeNode} {names : List String} (ht : t.Orderly)
    (h : t.Descends names n) : ∀ name ∈ names, Name.IsProper name.toList := by
  induction h with
  | here t => simp
  | child hmem _ ih =>
    cases ht with
    | directory _ hproper hall =>
      intro name hname
      rcases List.mem_cons.1 hname with rfl | hname
      · exact hproper _ hmem
      · exact ih (hall _ hmem) name hname

/-! ## Following names -/

/-- Siblings whose names rise are told apart by their names. -/
theorem Rise.nodup {children : List TreeNode} (h : Rise children) : (children.map name).Nodup := by
  rw [List.Nodup, List.pairwise_map]
  refine h.imp ?_
  intro a b hlt heq
  rw [heq] at hlt
  exact List.lt_irrefl _ hlt

/-- The first child of a name is the only one, so that a child is found by its name. -/
theorem Rise.find?_name {children : List TreeNode} (h : Rise children) {c : TreeNode}
    (hc : c ∈ children) : children.find? (·.name.toList == c.name.toList) = some c := by
  induction children with
  | nil => simp at hc
  | cons first rest ih =>
    rcases List.mem_cons.1 hc with rfl | hrest
    · simp
    · have hlt := List.rel_of_pairwise_cons h hrest
      have hne : first.name.toList ≠ c.name.toList := by
        intro heq
        rw [heq] at hlt
        exact List.lt_irrefl _ hlt
      have hfound := ih h.of_cons hrest
      simpa [hne] using hfound

/-- Whatever the tree is, following names descends along them. -/
theorem descends_of_follow {parts : List (List Char)} {t n : TreeNode}
    (h : t.follow parts = some n) : t.Descends (parts.map String.ofList) n := by
  induction parts generalizing t with
  | nil =>
    have hself : t = n := by simpa [follow] using h
    subst hself
    exact .here t
  | cons part rest ih =>
    cases t with
    | file f => simp [follow] at h
    | directory name children =>
      cases hfind : children.find? (·.name.toList == part) with
      | none => simp [follow, hfind] at h
      | some c =>
        have hmem : c ∈ children := List.mem_of_find?_eq_some hfind
        have hname : c.name.toList = part := by simpa using List.find?_some hfind
        have hbelow : c.Descends (rest.map String.ofList) n := ih (by simpa [follow, hfind] using h)
        have hchild : Descends (.directory name children) (c.name :: rest.map String.ofList) n :=
          .child hmem hbelow
        rw [List.map_cons, ← hname, String.ofList_toList]
        exact hchild

/-- In an orderly tree, following names goes where they descend to. -/
theorem Orderly.follow_of_descends {t n : TreeNode} {names : List String} (ht : t.Orderly)
    (h : t.Descends names n) : t.follow (names.map String.toList) = some n := by
  induction h with
  | here t => simp [follow]
  | child hmem _ ih =>
    cases ht with
    | directory hrise _ hall =>
      have hfound := hrise.find?_name hmem
      rw [List.map_cons, follow, hfound]
      exact ih (hall _ hmem)

/-- In an orderly tree following some names is the same as descending along them. -/
theorem Orderly.follow_eq_some_iff {t n : TreeNode} (ht : t.Orderly) (parts : List (List Char)) :
    t.follow parts = some n ↔ t.Descends (parts.map String.ofList) n := by
  constructor
  · exact descends_of_follow
  · intro h
    have hfollow := ht.follow_of_descends h
    simpa [List.map_map, Function.comp_def] using hfollow

/-! ## Paths -/

/-- Names that are joined by slashes are the parts of the path. -/
theorem pathParts_intercalate {names : List String}
    (h : ∀ name ∈ names, Name.IsProper name.toList) :
    pathParts ("/".intercalate names).toList = names.map String.toList := by
  cases names with
  | nil => decide
  | cons first rest =>
    have hslash : ∀ part ∈ (first :: rest).map String.toList, '/' ∉ part := by
      intro part hpart
      obtain ⟨name, hname, rfl⟩ := List.mem_map.1 hpart
      exact (h name hname).2.2.1
    have hfull : ∀ part ∈ (first :: rest).map String.toList, (!part.isEmpty) = true := by
      intro part hpart
      obtain ⟨name, hname, rfl⟩ := List.mem_map.1 hpart
      have hidle := (h name hname).not_idle
      rw [Path.isIdle, Bool.or_eq_false_iff] at hidle
      simp [hidle.1]
    have hsplit : (['/'].intercalate ((first :: rest).map String.toList)).splitOn '/'
        = (first :: rest).map String.toList :=
      List.splitOn_intercalate '/' hslash (by simp)
    have hsep : "/".toList = ['/'] := by decide
    rw [pathParts, String.toList_intercalate, hsep, hsplit]
    exact List.filter_eq_self.2 hfull

def partsOf (path : String) : List String := (pathParts path.toList).map String.ofList

/-- Names without slashes that are joined by slashes are the parts of the path. -/
theorem partsOf_intercalate {names : List String}
    (h : ∀ name ∈ names, Name.IsProper name.toList) :
    partsOf ("/".intercalate names) = names := by
  rw [partsOf, pathParts_intercalate h, List.map_map]
  simp [Function.comp_def]

/-- A path leads in an orderly tree to the node below which its parts descend, and to no other. -/
theorem Orderly.find?_eq_some_iff {t n : TreeNode} (ht : t.Orderly) (path : String) :
    t.find? path = some n ↔ t.Descends (partsOf path) n :=
  ht.follow_eq_some_iff _

/-- Names that lead to two nodes lead to one. -/
theorem Orderly.descends_unique {t n m : TreeNode} {names : List String} (ht : t.Orderly)
    (hn : t.Descends names n) (hm : t.Descends names m) : n = m := by
  have hfollow := ht.follow_of_descends hn
  rw [ht.follow_of_descends hm] at hfollow
  exact (Option.some.inj hfollow).symm

/-- The first of some names is that of a child. -/
theorem descends_cons_cases {t n : TreeNode} {first : String} {names : List String}
    (h : t.Descends (first :: names) n) :
    ∃ name children c, t = .directory name children ∧ c ∈ children ∧ c.name = first ∧
      c.Descends names n := by
  cases h with
  | child hmem hbelow => exact ⟨_, _, _, rfl, hmem, rfl, hbelow⟩

/-- What more names than some lead to is below what these lead to. -/
theorem descends_append_cases {t n : TreeNode} {front names : List String}
    (h : t.Descends (front ++ names) n) : ∃ m, t.Descends front m ∧ m.Descends names n := by
  induction front generalizing t with
  | nil => exact ⟨t, .here t, h⟩
  | cons first front ih =>
    obtain ⟨name, children, c, rfl, hmem, rfl, hbelow⟩ := descends_cons_cases h
    obtain ⟨m, hfront, hrest⟩ := ih hbelow
    exact ⟨m, .child hmem hfront, hrest⟩

/-- A path leads nowhere, if one of its parts names no child of what those before it lead to. -/
theorem Orderly.find?_eq_none {t m : TreeNode} (ht : t.Orderly) {path : String}
    {front rest : List String} {part : String} (hparts : partsOf path = front ++ part :: rest)
    (hfront : t.Descends front m) (hnone : ∀ c ∈ m.children, c.name ≠ part) :
    t.find? path = none := by
  rw [Option.eq_none_iff_forall_ne_some]
  intro n hn
  rw [ht.find?_eq_some_iff, hparts] at hn
  obtain ⟨k, hk, hbelow⟩ := descends_append_cases hn
  obtain rfl : k = m := ht.descends_unique hk hfront
  obtain ⟨name, children, c, rfl, hmem, hname, -⟩ := descends_cons_cases hbelow
  exact hnone c hmem hname

end TreeNode

/-! ## What a walk lists -/

namespace Layout

/-- The names of all layouts below a layout are names that a directory may hold. -/
inductive Named : Layout → Prop where
  | script (source : ScriptFile) : Named (.script source)
  | directory {name : Name} {children : List Layout} :
      (∀ c ∈ children, c.name.IsProper) → (∀ c ∈ children, Named c) →
        Named (.directory name children)

/-- Layouts are filled one by one. -/
theorem fillAll_eq_map (read : ScriptFile → FileNode) (layouts : List Layout) :
    fillAll read layouts = layouts.map (fill read) := by
  induction layouts with
  | nil => rfl
  | cons first rest ih => rw [fillAll, ih, List.map_cons]

theorem mem_fillAll {read : ScriptFile → FileNode} {layouts : List Layout} {t : TreeNode} :
    t ∈ fillAll read layouts ↔ ∃ l ∈ layouts, l.fill read = t := by
  rw [fillAll_eq_map, List.mem_map]

section Reading

variable {read : ScriptFile → FileNode}
  (hread : ∀ source, (read source).name = String.ofList source.name)

include hread

/-- Filling keeps the order of names. -/
theorem rise_fillAll {layouts : List Layout} (h : Rise layouts) :
    TreeNode.Rise (fillAll read layouts) := by
  rw [TreeNode.Rise, fillAll_eq_map, List.pairwise_map]
  refine h.imp ?_
  intro a b hlt
  rw [name_fill hread, name_fill hread, String.toList_ofList, String.toList_ofList]
  exact hlt

/-- The project tree of a layout is orderly, if the layout is. -/
theorem orderly_fill {l : Layout} (hrising : l.Rising) (hnamed : l.Named) :
    (l.fill read).Orderly := by
  induction hrising with
  | script source => exact .file _
  | @directory name children hrise _ ih =>
    cases hnamed with
    | directory hproper hall =>
      refine .directory (rise_fillAll hread hrise) ?_ ?_
      · intro t ht
        obtain ⟨c, hc, rfl⟩ := mem_fillAll.1 ht
        rw [name_fill hread, String.toList_ofList]
        exact hproper c hc
      · intro t ht
        obtain ⟨c, hc, rfl⟩ := mem_fillAll.1 ht
        exact ih c hc (hall c hc)

end Reading

end Layout

/-- What some entries contribute is named properly, if each of them contributes layouts of its own
name. -/
theorem Layout.named_flatMap {v : Visit} {sorted : List (Name × FileTree)}
    {layouts : Name × FileTree → List Layout} (hproper : ∀ e ∈ sorted, e.1.IsProper)
    (hall : ∀ e ∈ sorted, ∀ l ∈ layouts e, l.name = (v.child e.1).name ∧ l.Named) :
    ∀ c ∈ sorted.flatMap layouts, c.name.IsProper ∧ c.Named := by
  intro c hc
  obtain ⟨e, he, hce⟩ := List.mem_flatMap.1 hc
  obtain ⟨hname, hnamed⟩ := hall e he c hce
  rw [Visit.name_child] at hname
  exact ⟨hname ▸ hproper e he, hnamed⟩

/-- What is listed at a place has the name of the place, and all names below it are proper. -/
theorem Listing.named {w : Walker} (hfs : w.files.WellFormed) {v : Visit} {t : FileTree}
    {layouts : List Layout} {errors : Nat} (h : Listing w v t layouts errors)
    (ht : t.WellFormed) : ∀ l ∈ layouts, l.name = v.name ∧ l.Named := by
  induction h with
  | script => simpa [Layout.name] using Layout.Named.script _
  | @directory v entries sorted layouts errors _ hperm _ _ ih =>
    rw [FileTree.wellFormed_directory_iff] at ht
    have hproper : ∀ e ∈ sorted, e.1.IsProper := fun e he => (ht.2 e (hperm.mem_iff.1 he)).1
    have hbelow := Layout.named_flatMap (v := v) hproper
      fun e he => ih e he (ht.2 e (hperm.mem_iff.1 he)).2
    intro l hl
    obtain rfl := List.mem_singleton.1 hl
    exact ⟨rfl, .directory (fun c hc => (hbelow c hc).1) fun c hc => (hbelow c hc).2⟩
  | sealedDirectory =>
    intro l hl
    obtain rfl := List.mem_singleton.1 hl
    exact ⟨rfl, .directory (by simp) (by simp)⟩
  | link _ hlocate _ _ ih =>
    have hleads : w.files.Leads _ := FileSystem.locate_leads (by trivial) hlocate
    exact ih (hleads.wellFormed_node hfs)
  | _ => simp

/-- The tree of a root is orderly. -/
theorem ListsEntries.orderly {fs : FileSystem} (hfs : fs.WellFormed) {c : ScanConfig}
    {filter : IgnoreFilter} {v : Visit} {entries : List (Name × FileTree)}
    {children : List Layout} {errors : Nat} (hentries : (FileTree.directory entries).WellFormed)
    (h : ListsEntries (walkerOf fs c filter) v entries children errors) (root : Location) :
    (projectTree fs c root children).Orderly := by
  have hread : ∀ source, (outlineFile fs c source).name = String.ofList source.name :=
    fun _ => rfl
  obtain ⟨hrise, hrising⟩ := h.rising
  obtain ⟨sorted, layouts, errorsAt, hperm, -, hall, rfl, -⟩ := h
  rw [FileTree.wellFormed_directory_iff] at hentries
  have hentry : ∀ e ∈ sorted, e.1.IsProper ∧ e.2.WellFormed := by
    intro e he
    exact hentries.2 e (hperm.mem_iff.1 he)
  have hbelow := Layout.named_flatMap (v := v) (fun e he => (hentry e he).1)
    fun e he => (hall e he).named hfs (hentry e he).2
  exact Layout.orderly_fill hread (.directory hrise hrising)
    (.directory (fun c hc => (hbelow c hc).1) fun c hc => (hbelow c hc).2)

/-! ## Addresses -/

/-- Every node of a tree has an address. -/
structure TreeNode.Addressable (t : TreeNode) : Prop where
  /-- In every directory the names of the children, files and directories alike, rise byte by
  byte … -/
  rise : ∀ names name children, t.Descends names (.directory name children) → Rise children
  /-- … and hence differ. -/
  distinct : ∀ names name children, t.Descends names (.directory name children) →
    (children.map TreeNode.name).Nodup
  /-- The names on the way to a node, joined by slashes, lead to this node. -/
  found : ∀ names n, t.Descends names n → t.find? ("/".intercalate names) = some n
  /-- A path leads only to the node that its non-empty parts descend to. -/
  only : ∀ path n, t.find? path = some n ↔ t.Descends (partsOf path) n
  /-- A path leads nowhere, if one of its parts stands behind a file or names no child. -/
  lost : ∀ path front part rest m, partsOf path = front ++ part :: rest → t.Descends front m →
    (m.isDirectory = false ∨ ∀ c ∈ m.children, c.name ≠ part) → t.find? path = none

theorem TreeNode.children_eq_nil {t : TreeNode} (h : t.isDirectory = false) : t.children = [] := by
  cases t with
  | directory name children => simp [isDirectory] at h
  | file f => rfl

/-- Every node of an orderly tree has an address of its own. -/
theorem TreeNode.Orderly.addressable {t : TreeNode} (ht : t.Orderly) : t.Addressable := by
  have hrise : ∀ names name children, t.Descends names (.directory name children) →
      Rise children := by
    intro names name children h
    cases ht.of_descends h with
    | directory hrise _ _ => exact hrise
  refine
    { rise := hrise
      distinct := fun names name children h => (hrise names name children h).nodup
      found := ?_
      only := fun path n => ht.find?_eq_some_iff path
      lost := ?_ }
  · intro names n h
    rw [ht.find?_eq_some_iff, partsOf_intercalate (ht.isProper_of_descends h)]
    exact h
  · intro path front part rest m hparts hfront hlost
    refine ht.find?_eq_none hparts hfront ?_
    rcases hlost with hfile | hnone
    -- A file has no children at all.
    · simp [children_eq_nil hfile]
    · exact hnone

/-- The tree of a scan is orderly. -/
theorem scanProject_orderly {fs : FileSystem} (hfs : fs.WellFormed) {current : Location}
    {c : ScanConfig} {metadata : ScanMetadata} {map : ProjectMap}
    (h : scanProject fs current c metadata = .ok map) : map.tree.Orderly := by
  obtain ⟨s, hsurvey, rfl⟩ := scanProject_eq_ok h
  obtain ⟨-, filter, -, trail, entries, children, hlocate, hnode, hlists, hentries⟩ :=
    surveyProject_eq_ok hfs hsurvey
  have hleads : fs.Leads trail := FileSystem.locate_leads (by trivial) hlocate
  have hwell := hleads.wellFormed_node hfs
  rw [hnode] at hwell
  rw [Survey.tree_toMap, s.tree_eq_projectTree hentries]
  exact hlists.orderly hfs hwell s.root

/-- Every node of a scan has an address. -/
theorem scanProject_addressable {fs : FileSystem} (hfs : fs.WellFormed) {current : Location}
    {c : ScanConfig} {metadata : ScanMetadata} {map : ProjectMap}
    (h : scanProject fs current c metadata = .ok map) : map.tree.Addressable :=
  (scanProject_orderly hfs h).addressable

/-- The nodes of the two scripts of the small project, if no script is admitted. -/
def rejectedJavaScript : TreeNode := .file ⟨"a.js", [], .javaScript, .tooLarge⟩

def rejectedTypeScript : TreeNode := .file ⟨"b.ts", [], .typeScript, .tooLarge⟩

theorem scanProject_smallProject_strict :
    ∃ map, scanProject smallProject [] strictSettings {} = .ok map ∧
      map.tree = .directory "p" [rejectedJavaScript, .directory "l" [rejectedTypeScript],
        .directory "src" [rejectedTypeScript]] := by
  obtain ⟨map, hmap, htree, -⟩ := exists_map_smallProject
  exact ⟨map, hmap, htree⟩

/-- In the small project the script behind the link has an address, and nothing is behind a
script. -/
theorem scanProject_addressable_smallProject :
    smallProject.WellFormed ∧ ∃ map, scanProject smallProject [] strictSettings {} = .ok map ∧
      map.tree.Addressable ∧ map.tree.find? "l/b.ts" = some rejectedTypeScript ∧
      map.tree.find? "a.js/b.ts" = none := by
  obtain ⟨map, hmap, htree⟩ := scanProject_smallProject_strict
  have haddress := scanProject_addressable smallProject_wellFormed hmap
  have hinner : TreeNode.Descends (.directory "l" [rejectedTypeScript]) ["b.ts"]
      rejectedTypeScript := .child List.mem_cons_self (.here _)
  have hscript : map.tree.Descends ["l", "b.ts"] rejectedTypeScript := by
    rw [htree]
    exact .child (List.mem_cons_of_mem _ List.mem_cons_self) hinner
  have hfile : map.tree.Descends ["a.js"] rejectedJavaScript := by
    rw [htree]
    exact .child List.mem_cons_self (.here _)
  have hparts : TreeNode.partsOf "a.js/b.ts" = ["a.js"] ++ "b.ts" :: [] := by decide
  refine ⟨smallProject_wellFormed, map, hmap, haddress, ?_, ?_⟩
  · exact haddress.found _ _ hscript
  · exact haddress.lost _ _ _ _ _ hparts hfile (.inl rfl)

end CodeAtlas
