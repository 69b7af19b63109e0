import CodeAtlas.Atlas.Tree
import CodeAtlas.Scan.Walk

/-!
# From a walk to a tree

- `OpenDirectory`: a directory that may still get children.
- `Nest`: the directories that are open, each inside of the next one.
- `assemble`: the tree of some entries of a walk.
-/

namespace CodeAtlas

/-- A directory that may still get children; its last child comes first. -/
structure OpenDirectory where
  name : String
  children : List TreeNode := []

namespace OpenDirectory

def add (d : OpenDirectory) (child : TreeNode) : OpenDirectory :=
  { d with children := child :: d.children }

def close (d : OpenDirectory) : TreeNode := .directory d.name d.children.reverse

end OpenDirectory

/-- The directories that are open: the inner one, and those around it, the nearest one first. -/
structure Nest where
  inner : OpenDirectory
  outer : List OpenDirectory

namespace Nest

def depth (n : Nest) : Nat := n.outer.length + 1

/-- Closes the inner directory, unless it is the only one. -/
def closeInner (n : Nest) : Nest :=
  match n.outer with
  | [] => n
  | parent :: rest => ⟨parent.add n.inner.close, rest⟩

def closeTimes : Nat → Nest → Nest
  | 0, n => n
  | k + 1, n => closeTimes k n.closeInner

/-- Closes directories until at most so many are open. -/
def closeTo (n : Nest) (depth : Nat) : Nest := closeTimes (n.depth - depth) n

def enter (n : Nest) (name : String) : Nest := ⟨⟨name, []⟩, n.inner :: n.outer⟩

def addFile (n : Nest) (f : FileNode) : Nest := { n with inner := n.inner.add (.file f) }

/-- Puts an entry where its depth says, and gives the files that are left. Scripts take the files
in turn. -/
def place (n : Nest) (files : List FileNode) (entry : WalkEntry) : Nest × List FileNode :=
  let n := n.closeTo entry.depth
  match entry, files with
  | .directory _ name, files => (n.enter (String.ofList name), files)
  | .script _ _, f :: files => (n.addFile f, files)
  | .script _ _, [] => (n, [])

def placeAll (n : Nest) : List FileNode → List WalkEntry → Nest
  | _, [] => n
  | files, entry :: entries =>
    let (n, files) := n.place files entry
    n.placeAll files entries

/-- The outermost directory, with all directories closed. -/
def finish (n : Nest) : TreeNode := (n.closeTo 1).inner.close

end Nest

/-- The tree of some entries of a walk below a root with a name; `files` are the scripts among the
entries, in their order. -/
def assemble (rootName : String) (entries : List WalkEntry) (files : List FileNode) : TreeNode :=
  (Nest.placeAll ⟨⟨rootName, []⟩, []⟩ files entries).finish

end CodeAtlas
