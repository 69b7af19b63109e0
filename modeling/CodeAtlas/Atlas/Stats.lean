import CodeAtlas.Atlas.Tree

/-!
# Counts

- `ScanStats`: how many directories, files and symbols of each sort a scan found.
- `ScanStats.addSymbol`, `ScanStats.addFile`: counting one more.
- `ScanStats.ofTree`: the counts of a tree.
-/

namespace CodeAtlas

structure ScanStats where
  totalDirectories : Nat := 0
  totalFiles : Nat := 0
  totalSymbols : Nat := 0
  functions : Nat := 0
  classes : Nat := 0
  methods : Nat := 0
  routes : Nat := 0
  parsedFiles : Nat := 0
  recoveredFiles : Nat := 0
  unparsableFiles : Nat := 0
  unreadableFiles : Nat := 0
  oversizedFiles : Nat := 0
  walkErrors : Nat := 0
  deriving DecidableEq, Inhabited, Repr

namespace ScanStats

def addSymbol (s : ScanStats) (kind : SymbolKind) : ScanStats :=
  let s := { s with totalSymbols := s.totalSymbols + 1 }
  match kind with
  | .function => { s with functions := s.functions + 1 }
  | .classDecl => { s with classes := s.classes + 1 }
  | .method => { s with methods := s.methods + 1 }
  | .route => { s with routes := s.routes + 1 }

def addStatus (s : ScanStats) (status : FileStatus) : ScanStats :=
  let s := { s with totalFiles := s.totalFiles + 1 }
  match status with
  | .parsed => { s with parsedFiles := s.parsedFiles + 1 }
  | .recovered => { s with recoveredFiles := s.recoveredFiles + 1 }
  | .unparsable => { s with unparsableFiles := s.unparsableFiles + 1 }
  | .unreadable => { s with unreadableFiles := s.unreadableFiles + 1 }
  | .tooLarge => { s with oversizedFiles := s.oversizedFiles + 1 }

def addFile (s : ScanStats) (f : FileNode) : ScanStats :=
  f.symbols.foldl (fun s x => s.addSymbol x.kind) (s.addStatus f.status)

/-- Counts all nodes of the trees on a stack. The children of a directory are put on top, so that
the last one is counted first. -/
def addTrees : ScanStats → List TreeNode → ScanStats
  | s, [] => s
  | s, .file f :: stack => addTrees (s.addFile f) stack
  | s, .directory _ cs :: stack =>
    addTrees { s with totalDirectories := s.totalDirectories + 1 } (cs.reverse ++ stack)
termination_by _ stack => TreeNode.sizes stack
decreasing_by
  · simp [TreeNode.sizes, TreeNode.size]
  · simp [TreeNode.sizes, TreeNode.size, TreeNode.sizes_append, TreeNode.sizes_reverse]

/-- The counts of a tree; its root is no directory among them. -/
def ofTree (root : TreeNode) : ScanStats :=
  let s := addTrees {} [root]
  { s with totalDirectories := s.totalDirectories - 1 }

end ScanStats

end CodeAtlas
