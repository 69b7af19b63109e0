import CodeAtlas.Proofs.Assembly

/-!
# Layouts

A layout is what a walk finds, as a tree: directories and scripts that have not been read yet.

- `Layout.entriesAll`: the entries of some layouts, parents first.
- `Layout.fillAll`: the project trees of some layouts, with the scripts read.
- `Layout.flattened_fillAll`: the entries of layouts are those of the project trees.
- `assemble_entriesAll`: assembling the entries of layouts gives their project trees.
-/

namespace CodeAtlas

/-- What a walk finds: a directory, or a script that has not been read yet. -/
inductive Layout where
  | script (source : ScriptFile)
  | directory (name : Name) (children : List Layout)

namespace Layout

mutual

/-- The entries of a layout, `d` steps below the root. -/
def entries (d : Nat) : Layout → List WalkEntry
  | script source => [.script d source]
  | directory name children => .directory d name :: entriesAll (d + 1) children

def entriesAll (d : Nat) : List Layout → List WalkEntry
  | [] => []
  | first :: rest => entries d first ++ entriesAll d rest

end

mutual

/-- The project tree of a layout; `read` reads the scripts. -/
def fill (read : ScriptFile → FileNode) : Layout → TreeNode
  | script source => .file (read source)
  | directory name children => .directory (String.ofList name) (fillAll read children)

def fillAll (read : ScriptFile → FileNode) : List Layout → List TreeNode
  | [] => []
  | first :: rest => fill read first :: fillAll read rest

end

theorem entriesAll_eq_flatMap (d : Nat) (layouts : List Layout) :
    entriesAll d layouts = layouts.flatMap (entries d) := by
  induction layouts with
  | nil => rfl
  | cons first rest ih => rw [entriesAll, ih, List.flatMap_cons]

/-! ## Entries and project trees -/

def readAll (read : ScriptFile → FileNode) (entries : List WalkEntry) : List FileNode :=
  (entries.filterMap WalkEntry.script?).map read

theorem readAll_append (read : ScriptFile → FileNode) (entries more : List WalkEntry) :
    readAll read (entries ++ more) = readAll read entries ++ readAll read more := by
  simp [readAll]

mutual

/-- One layout in front of others. -/
theorem flattened_fill_cons (read : ScriptFile → FileNode) (d : Nat) {trees : List TreeNode}
    {more : List WalkEntry} {files : List FileNode} (h : Flattened d trees more files) :
    ∀ l : Layout, Flattened d (fill read l :: trees) (entries d l ++ more)
      (readAll read (entries d l) ++ files)
  | script _ => .file h
  | directory _ children => .directory (flattened_fillAll read (d + 1) children) h

/-- The entries of layouts and their scripts, once read, are those of the project trees. -/
theorem flattened_fillAll (read : ScriptFile → FileNode) (d : Nat) :
    ∀ layouts : List Layout, Flattened d (fillAll read layouts) (entriesAll d layouts)
      (readAll read (entriesAll d layouts))
  | [] => .nil d
  | first :: rest => by
    have hrest := flattened_fillAll read d rest
    have hfirst := flattened_fill_cons read d hrest first
    rw [fillAll, entriesAll, readAll_append]
    exact hfirst

end

end Layout

/-- Assembling the entries of layouts gives their project trees below the root. -/
theorem assemble_entriesAll (rootName : String) (read : ScriptFile → FileNode)
    (layouts : List Layout) :
    assemble rootName (Layout.entriesAll 1 layouts)
      (((Layout.entriesAll 1 layouts).filterMap WalkEntry.script?).map read)
      = .directory rootName (Layout.fillAll read layouts) :=
  assemble_of_flattened rootName (Layout.flattened_fillAll read 1 layouts)

end CodeAtlas
