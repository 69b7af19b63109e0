import CodeAtlas.Ignore.Filter
import CodeAtlas.Outline.Language

/-!
# Walking through a project

- `WalkEntry`: a directory or a script that a walk meets, with its depth.
- `Walker.visit`: the entries at and below a place.
- `Walker.walk`: all entries below a root, and the number of places that could not be visited.

Entries of a directory are visited in the order of their names, and a directory comes before what
is in it. Directories that are passed over are not entered. Links are visited only if they are
followed; a link that leads nowhere, or back into a directory that is being visited, is an error.
So is a directory that may not be listed.
-/

namespace CodeAtlas

structure ScriptFile where
  name : Name
  path : Path
  language : Language
  deriving DecidableEq, Repr

/-- What a walk meets, with the number of steps from the root. -/
inductive WalkEntry where
  | directory (depth : Nat) (name : Name)
  | script (depth : Nat) (source : ScriptFile)
  deriving DecidableEq, Repr

namespace WalkEntry

def depth : WalkEntry → Nat
  | directory d _ => d
  | script d _ => d

def script? : WalkEntry → Option ScriptFile
  | directory _ _ => none
  | script _ s => some s

end WalkEntry

structure Walked where
  entries : List WalkEntry := []
  errors : Nat := 0
  deriving DecidableEq, Repr

namespace Walked

def append (a b : Walked) : Walked := ⟨a.entries ++ b.entries, a.errors + b.errors⟩

def concat (all : List Walked) : Walked := all.foldr append {}

def failed : Walked := ⟨[], 1⟩

end Walked

structure Walker where
  files : FileSystem
  filter : IgnoreFilter
  followLinks : Bool

structure Visit where
  /-- The number of steps from the root. -/
  depth : Nat
  /-- How the walk got there. -/
  location : Location
  /-- The place itself, without links. -/
  real : Location
  /-- The places of the directories around it, without links. -/
  around : List Location

namespace Visit

def name (v : Visit) : Name := v.location.getLast?.getD []

def path (v : Visit) : Path := .ofLocation v.location

def child (v : Visit) (name : Name) : Visit where
  depth := v.depth + 1
  location := v.location ++ [name]
  real := v.real ++ [name]
  around := v.real :: v.around

end Visit

def Language.ofFileName? (name : Name) : Option Language :=
  (Path.extensionOf? name).bind fun extension => ofExtension? (String.ofList extension)

def Language.ofPath? (p : Path) : Option Language := p.fileName?.bind Language.ofFileName?

/-- Does a name come before another one? Names compare character by character. -/
def Name.isBefore (a b : Name) : Bool := a.lex b fun x y => x.toNat < y.toNat

/-- Results by name, in the order of the names. -/
def inNameOrder {α : Type} (results : List (Name × α)) : List α :=
  (results.mergeSort fun a b => !Name.isBefore b.1 a.1).map (·.2)

namespace Walker

/-- A file counts if it is a script and is not passed over. -/
def visitFile (w : Walker) (v : Visit) : Walked :=
  match Language.ofPath? v.path with
  | none => {}
  | some language =>
    if w.filter.ignores v.path false then {}
    else ⟨[.script v.depth ⟨v.name, v.path, language⟩], 0⟩

/-- A directory that may not be listed counts without entries, and as an error. -/
def visitSealed (w : Walker) (v : Visit) : Walked :=
  if w.filter.ignores v.path true then {} else ⟨[.directory v.depth v.name], 1⟩

/-- A link counts as what it leads to; `cross` visits a directory that is not where the walk found
it. That a directory is not one around the link can only be told if it may be opened. -/
def visitLink (w : Walker) (cross : Visit → FileTree → Walked) (v : Visit) : Walked :=
  if !w.followLinks then {}
  else
    match w.files.locate [] v.path with
    | .error _ => .failed
    | .ok trail =>
      match w.files.node trail with
      | .directory entries =>
        if v.around.contains trail.location then .failed
        else cross { v with real := trail.location } (.directory entries)
      | .file _ | .sealedFile _ => w.visitFile v
      | .sealedDirectory | .link _ => .failed

mutual

/-- The entries at and below a place, where a tree is found. -/
def visitTree (w : Walker) (cross : Visit → FileTree → Walked) (v : Visit) : FileTree → Walked
  | .file _ | .sealedFile _ => w.visitFile v
  | .link _ => w.visitLink cross v
  | .sealedDirectory => w.visitSealed v
  | .directory entries =>
    if w.filter.ignores v.path true then {}
    else
      Walked.append ⟨[.directory v.depth v.name], 0⟩
        (Walked.concat (inNameOrder (visitEntries w cross v entries)))

def visitEntries (w : Walker) (cross : Visit → FileTree → Walked) (v : Visit) :
    List (Name × FileTree) → List (Name × Walked)
  | [] => []
  | (name, t) :: rest =>
    (name, visitTree w cross (v.child name) t) :: visitEntries w cross v rest

end

/-- The entries at and below a place, with a limited number of links that lead into
directories. -/
def visit (w : Walker) : Nat → Visit → FileTree → Walked
  | 0 => w.visitTree fun _ _ => .failed
  | n + 1 => w.visitTree (w.visit n)

end Walker

mutual

def FileTree.countDirectories : FileTree → Nat
  | .directory entries => entriesDirectories entries + 1
  | _ => 0

def FileTree.entriesDirectories : List (Name × FileTree) → Nat
  | [] => 0
  | (_, t) :: rest => countDirectories t + entriesDirectories rest

end

namespace Walker

/-- How many links can lead into directories, one behind the other: each leads to a directory that
is not being visited. -/
def linkBound (w : Walker) : Nat := FileTree.entriesDirectories w.files.entries + 1

/-- All entries below a root, which is never passed over itself. -/
def walk (w : Walker) (root : Location) : Walked :=
  match w.files.locate [] (.ofLocation root) with
  | .error _ => .failed
  | .ok trail =>
    let v : Visit := ⟨0, root, trail.location, []⟩
    match w.files.node trail with
    | .directory entries =>
      Walked.concat (inNameOrder (w.visitEntries (w.visit w.linkBound) v entries))
    | .sealedDirectory => .failed
    | _ => {}

end Walker

end CodeAtlas
