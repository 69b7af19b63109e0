import CodeAtlas.Outline.Language
import CodeAtlas.Outline.Symbol

/-!
# Project trees

- `FileNode`: a script file with its symbols.
- `TreeNode`: directories and files.
- `TreeNode.files`: all files, by a walk with a stack.
- `TreeNode.fileList`: all files, by recursion on the tree.
- `TreeNode.find?`: the node at a path.
-/

namespace CodeAtlas

structure FileNode where
  name : String
  symbols : List Symbol
  language : Language
  status : FileStatus
  deriving DecidableEq, Inhabited, Repr

inductive TreeNode where
  | directory (name : String) (children : List TreeNode)
  | file (f : FileNode)
  deriving Inhabited, Repr

namespace TreeNode

def name : TreeNode → String
  | directory n _ => n
  | file f => f.name

/-- The children of a directory; a file has none. -/
def children : TreeNode → List TreeNode
  | directory _ cs => cs
  | file _ => []

def isDirectory : TreeNode → Bool
  | directory _ _ => true
  | file _ => false

mutual

def size : TreeNode → Nat
  | directory _ cs => sizes cs + 1
  | file _ => 1

def sizes : List TreeNode → Nat
  | [] => 0
  | c :: cs => size c + sizes cs

end

/-- The nodes of some trees and of others are counted apart. -/
theorem sizes_append (l m : List TreeNode) : sizes (l ++ m) = sizes l + sizes m := by
  induction l with
  | nil => simp [sizes]
  | cons c cs ih => simp [sizes, ih, Nat.add_assoc]

theorem sizes_reverse (l : List TreeNode) : sizes l.reverse = sizes l := by
  induction l with
  | nil => rfl
  | cons c cs ih => simp [sizes, sizes_append, ih, Nat.add_comm]

/-! ## Files -/

mutual

/-- All files of a tree, from left to right. -/
def fileList : TreeNode → List FileNode
  | directory _ cs => fileLists cs
  | file f => [f]

def fileLists : List TreeNode → List FileNode
  | [] => []
  | c :: cs => fileList c ++ fileLists cs

end

/-- All files of the trees on a stack: the top is taken off, and the children of a directory are
put on instead, the first one on top. -/
def filesFrom : List TreeNode → List FileNode
  | [] => []
  | file f :: stack => f :: filesFrom stack
  | directory _ cs :: stack => filesFrom (cs ++ stack)
termination_by stack => sizes stack
decreasing_by
  · simp [sizes, size]
  · simp [sizes, size, sizes_append]

def files (t : TreeNode) : List FileNode := filesFrom [t]

/-! ## Paths -/

/-- Splits a text at the slashes, without the empty parts. -/
def pathParts (path : List Char) : List (List Char) :=
  (path.splitOn '/').filter (!·.isEmpty)

/-- The node that some names lead to; of several children of one name the first is taken. -/
def follow : TreeNode → List (List Char) → Option TreeNode
  | t, [] => some t
  | directory _ cs, part :: rest =>
    match cs.find? (·.name.toList == part) with
    | some c => follow c rest
    | none => none
  | file _, _ :: _ => none

def find? (t : TreeNode) (path : String) : Option TreeNode := t.follow (pathParts path.toList)

end TreeNode

end CodeAtlas
