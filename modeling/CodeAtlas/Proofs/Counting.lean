import Mathlib.Algebra.BigOperators.Group.List.Basic
import Mathlib.Algebra.GroupWithZero.Nat
import Mathlib.Tactic.Abel
import CodeAtlas.Atlas.Stats
import CodeAtlas.Proofs.TreeFiles

/-!
# Counts as sums

The counts of a tree are put together from those of its files and the number of its directories, in
whatever order the tree is walked through.

- `ScanStats.ofFile`: what a file contributes.
- `ScanStats.addTrees_eq`: what the trees on a stack contribute.
- `ScanStats.ofTree_directory`: the counts of a tree as a sum.
- `ScanStats.count`: the number of files with a status.
- `ScanStats.count_ofTree_directory`: this number, counted in the tree.
-/

namespace CodeAtlas

attribute [ext] ScanStats

namespace ScanStats

instance : Add ScanStats where
  add a b :=
    { totalDirectories := a.totalDirectories + b.totalDirectories
      totalFiles := a.totalFiles + b.totalFiles
      totalSymbols := a.totalSymbols + b.totalSymbols
      functions := a.functions + b.functions
      classes := a.classes + b.classes
      methods := a.methods + b.methods
      routes := a.routes + b.routes
      parsedFiles := a.parsedFiles + b.parsedFiles
      recoveredFiles := a.recoveredFiles + b.recoveredFiles
      unparsableFiles := a.unparsableFiles + b.unparsableFiles
      unreadableFiles := a.unreadableFiles + b.unreadableFiles
      oversizedFiles := a.oversizedFiles + b.oversizedFiles
      walkErrors := a.walkErrors + b.walkErrors }

instance : Zero ScanStats where
  zero := {}

theorem add_def (a b : ScanStats) : a + b =
    { totalDirectories := a.totalDirectories + b.totalDirectories
      totalFiles := a.totalFiles + b.totalFiles
      totalSymbols := a.totalSymbols + b.totalSymbols
      functions := a.functions + b.functions
      classes := a.classes + b.classes
      methods := a.methods + b.methods
      routes := a.routes + b.routes
      parsedFiles := a.parsedFiles + b.parsedFiles
      recoveredFiles := a.recoveredFiles + b.recoveredFiles
      unparsableFiles := a.unparsableFiles + b.unparsableFiles
      unreadableFiles := a.unreadableFiles + b.unreadableFiles
      oversizedFiles := a.oversizedFiles + b.oversizedFiles
      walkErrors := a.walkErrors + b.walkErrors } := rfl

theorem zero_def : (0 : ScanStats) = {} := rfl

instance : AddCommMonoid ScanStats where
  add_assoc a b c := by simp [add_def, Nat.add_assoc]
  zero_add a := by simp [add_def, zero_def]
  add_zero a := by simp [add_def, zero_def]
  add_comm a b := by simp [add_def, Nat.add_comm]
  nsmul := nsmulRec

/-! ## Contributions -/

def ofSymbol (kind : SymbolKind) : ScanStats := ({} : ScanStats).addSymbol kind

def ofFile (f : FileNode) : ScanStats := ({} : ScanStats).addFile f

def ofDirectories (n : Nat) : ScanStats := { totalDirectories := n }

def ofErrors (n : Nat) : ScanStats := { walkErrors := n }

/-- Adding a symbol is adding what it contributes. -/
theorem addSymbol_eq (s : ScanStats) (kind : SymbolKind) : s.addSymbol kind = s + ofSymbol kind := by
  cases kind <;> simp [addSymbol, ofSymbol, add_def]

/-- Adding a status is adding it to nothing, and that to what there was. -/
theorem addStatus_eq (s : ScanStats) (status : FileStatus) :
    s.addStatus status = s + ({} : ScanStats).addStatus status := by
  cases status <;> simp [addStatus, add_def]

theorem foldl_addSymbol_eq (symbols : List Symbol) (s : ScanStats) :
    symbols.foldl (fun s x => s.addSymbol x.kind) s
      = s + (symbols.map fun x => ofSymbol x.kind).sum := by
  induction symbols generalizing s with
  | nil => simp
  | cons x rest ih => rw [List.foldl_cons, ih, addSymbol_eq, List.map_cons, List.sum_cons, add_assoc]

/-- A file contributes its status and its symbols. -/
theorem ofFile_eq (f : FileNode) :
    ofFile f = ({} : ScanStats).addStatus f.status
      + (f.symbols.map fun x => ofSymbol x.kind).sum := by
  rw [ofFile, addFile, foldl_addSymbol_eq]

/-- Adding a file is adding what it contributes. -/
theorem addFile_eq (s : ScanStats) (f : FileNode) : s.addFile f = s + ofFile f := by
  rw [addFile, foldl_addSymbol_eq, addStatus_eq, ofFile_eq, add_assoc]

theorem ofDirectories_add (m n : Nat) :
    ofDirectories (m + n) = ofDirectories m + ofDirectories n := by
  simp [ofDirectories, add_def]

/-- Errors put into counts without errors are added to them. -/
theorem withErrors_eq {s : ScanStats} (h : s.walkErrors = 0) (n : Nat) :
    { s with walkErrors := n } = s + ofErrors n := by
  simp [ofErrors, add_def, h]

end ScanStats

/-! ## Trees -/

namespace TreeNode

mutual

/-- The number of directories of a tree, with its root. -/
def directoryCount : TreeNode → Nat
  | directory _ children => directoryCounts children + 1
  | file _ => 0

def directoryCounts : List TreeNode → Nat
  | [] => 0
  | first :: rest => directoryCount first + directoryCounts rest

end

/-- The directories of some trees and of others are counted apart. -/
theorem directoryCounts_append (trees more : List TreeNode) :
    directoryCounts (trees ++ more) = directoryCounts trees + directoryCounts more := by
  induction trees with
  | nil => simp [directoryCounts]
  | cons first rest ih => simp [directoryCounts, ih, Nat.add_assoc]

theorem directoryCounts_reverse (trees : List TreeNode) :
    directoryCounts trees.reverse = directoryCounts trees := by
  induction trees with
  | nil => rfl
  | cons first rest ih =>
    simp [directoryCounts_append, directoryCounts, ih, Nat.add_comm]

/-- What the files of trees contribute does not depend on the order of the trees. -/
theorem sum_fileLists_reverse (trees : List TreeNode) :
    ((fileLists trees.reverse).map ScanStats.ofFile).sum
      = ((fileLists trees).map ScanStats.ofFile).sum := by
  induction trees with
  | nil => rfl
  | cons first rest ih =>
    simp [fileLists_append, fileLists, ih, add_comm]

mutual

/-- Symbols and statuses do not matter to the number of directories. -/
theorem directoryCount_skeleton : ∀ t : TreeNode, t.skeleton.directoryCount = t.directoryCount
  | directory _ children => by
    rw [skeleton, directoryCount, directoryCounts_skeletons children, directoryCount]
  | file _ => rfl

/-- The number of directories is that of the skeleton. -/
theorem directoryCounts_skeletons :
    ∀ trees, directoryCounts (skeletons trees) = directoryCounts trees
  | [] => rfl
  | first :: rest => by
    rw [skeletons, directoryCounts, directoryCount_skeleton first, directoryCounts_skeletons rest,
      directoryCounts]

end

end TreeNode

namespace ScanStats

/-- What the trees on a stack contribute: their directories and their files. -/
theorem addTrees_eq (s : ScanStats) (stack : List TreeNode) :
    addTrees s stack = s + ofDirectories (TreeNode.directoryCounts stack)
      + ((TreeNode.fileLists stack).map ofFile).sum := by
  fun_induction addTrees s stack with
  | case1 s =>
    simp [TreeNode.directoryCounts, TreeNode.fileLists, ofDirectories, add_def]
  | case2 s f stack ih =>
    rw [ih, addFile_eq]
    simp only [TreeNode.directoryCounts, TreeNode.directoryCount, TreeNode.fileLists,
      TreeNode.fileList, Nat.zero_add, List.singleton_append, List.map_cons, List.sum_cons]
    abel
  | case3 s name children stack ih =>
    -- The children are met from right to left, but sums do not care.
    simp only [List.unattach_reverse, List.unattach_attach] at ih
    have hself : { s with totalDirectories := s.totalDirectories + 1 } = s + ofDirectories 1 := by
      simp [ofDirectories, add_def]
    rw [ih, hself, TreeNode.directoryCounts_append, TreeNode.directoryCounts_reverse,
      TreeNode.fileLists_append, List.map_append, List.sum_append, TreeNode.sum_fileLists_reverse]
    simp only [TreeNode.directoryCounts, TreeNode.directoryCount, TreeNode.fileLists,
      TreeNode.fileList, List.map_append, List.sum_append, ofDirectories_add]
    abel

/-- The counts of a directory: the directories below it, and what its files contribute. -/
theorem ofTree_directory (name : String) (children : List TreeNode) :
    ofTree (.directory name children) = ofDirectories (TreeNode.directoryCounts children)
      + ((TreeNode.fileLists children).map ofFile).sum := by
  rw [ofTree, addTrees_eq]
  simp only [TreeNode.directoryCounts, TreeNode.directoryCount, TreeNode.fileLists,
    TreeNode.fileList, List.append_nil]
  simp [ofDirectories, add_def]

/-! ## Single figures -/

def count (s : ScanStats) : FileStatus → Nat
  | .parsed => s.parsedFiles
  | .recovered => s.recoveredFiles
  | .unparsable => s.unparsableFiles
  | .unreadable => s.unreadableFiles
  | .tooLarge => s.oversizedFiles

def countHom (status : FileStatus) : ScanStats →+ Nat where
  toFun s := s.count status
  map_zero' := by cases status <;> rfl
  map_add' a b := by cases status <;> rfl

def totalFilesHom : ScanStats →+ Nat where
  toFun s := s.totalFiles
  map_zero' := rfl
  map_add' _ _ := rfl

def totalDirectoriesHom : ScanStats →+ Nat where
  toFun s := s.totalDirectories
  map_zero' := rfl
  map_add' _ _ := rfl

def walkErrorsHom : ScanStats →+ Nat where
  toFun s := s.walkErrors
  map_zero' := rfl
  map_add' _ _ := rfl

/-- A figure to which symbols contribute nothing is put together from directories and statuses. -/
theorem figure_ofTree_directory (φ : ScanStats →+ Nat) (hφ : ∀ kind, φ (ofSymbol kind) = 0)
    (name : String) (children : List TreeNode) :
    φ (ofTree (.directory name children))
      = φ (ofDirectories (TreeNode.directoryCounts children))
        + ((TreeNode.fileLists children).map fun f =>
            φ (({} : ScanStats).addStatus f.status)).sum := by
  have hfile : ∀ f, φ (ofFile f) = φ (({} : ScanStats).addStatus f.status) := by
    intro f
    rw [ofFile_eq, map_add, map_list_sum, List.map_map]
    simp [Function.comp_def, hφ]
  rw [ofTree_directory, map_add, map_list_sum, List.map_map]
  simp only [Function.comp_def, hfile]

/-- The number of files with a status, counted in the tree. -/
theorem count_ofTree_directory (name : String) (children : List TreeNode) (status : FileStatus) :
    (ofTree (.directory name children)).count status
      = (TreeNode.fileLists children).countP (·.status = status) := by
  have hfigure := figure_ofTree_directory (countHom status)
    (fun kind => by cases kind <;> cases status <;> rfl) name children
  have hdirectories :
      countHom status (ofDirectories (TreeNode.directoryCounts children)) = 0 := by
    cases status <;> rfl
  have hstatus : ∀ f : FileNode, countHom status (({} : ScanStats).addStatus f.status)
      = if f.status = status then 1 else 0 := by
    intro f
    cases f.status <;> cases status <;> rfl
  simp only [hdirectories, hstatus, Nat.zero_add] at hfigure
  refine hfigure.trans ?_
  induction TreeNode.fileLists children with
  | nil => rfl
  | cons f rest ih =>
    rw [List.map_cons, List.sum_cons, ih, List.countP_cons, Nat.add_comm]
    simp

/-- All files below a root are counted, each once. -/
theorem totalFiles_ofTree_directory (name : String) (children : List TreeNode) :
    (ofTree (.directory name children)).totalFiles = (TreeNode.fileLists children).length := by
  have hfigure := figure_ofTree_directory totalFilesHom (fun kind => by cases kind <;> rfl)
    name children
  have hdirectories : totalFilesHom (ofDirectories (TreeNode.directoryCounts children)) = 0 := rfl
  have hstatus : ∀ f : FileNode, totalFilesHom (({} : ScanStats).addStatus f.status) = 1 := by
    intro f
    cases f.status <;> rfl
  exact hfigure.trans (by simp [hdirectories, hstatus])

/-- The directories below a root are counted, and the root is not. -/
theorem totalDirectories_ofTree_directory (name : String) (children : List TreeNode) :
    (ofTree (.directory name children)).totalDirectories = TreeNode.directoryCounts children := by
  have hfigure := figure_ofTree_directory totalDirectoriesHom (fun kind => by cases kind <;> rfl)
    name children
  have hdirectories : totalDirectoriesHom (ofDirectories (TreeNode.directoryCounts children))
      = TreeNode.directoryCounts children := rfl
  have hstatus : ∀ f : FileNode, totalDirectoriesHom (({} : ScanStats).addStatus f.status) = 0 := by
    intro f
    cases f.status <;> rfl
  exact hfigure.trans (by simp [hdirectories, hstatus])

/-- The counts of a tree know of no errors. -/
theorem walkErrors_ofTree_directory (name : String) (children : List TreeNode) :
    (ofTree (.directory name children)).walkErrors = 0 := by
  have hfigure := figure_ofTree_directory walkErrorsHom (fun kind => by cases kind <;> rfl)
    name children
  have hdirectories : walkErrorsHom (ofDirectories (TreeNode.directoryCounts children)) = 0 := rfl
  have hstatus : ∀ f : FileNode, walkErrorsHom (({} : ScanStats).addStatus f.status) = 0 := by
    intro f
    cases f.status <;> rfl
  exact hfigure.trans (by simp [hdirectories, hstatus])

end ScanStats

end CodeAtlas
