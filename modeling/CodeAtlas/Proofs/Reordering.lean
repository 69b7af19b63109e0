import CodeAtlas.Proofs.Depths

/-!
# Reordered trees

Both walks with a stack, that which lists the files of a tree and that which counts its nodes, agree
with the recursion on the tree. The counts do not depend on the order of the children of any
directory.

- `TreeNode.Reordered`: the children of some directories in another order.
- `TreeNode.filterMap_withDepth`, `TreeNode.countP_withDepths`: files and directories among the nodes.
- `ScanStats.foldl_addFile_eq`: counting files one by one.
- `ScanStats.ofTree_eq`: the counts of a tree as a sum.
- `TreeNode.files_and_counts`: what both walks find, by recursion.
-/

namespace CodeAtlas

namespace TreeNode

def file? : TreeNode → Option FileNode
  | directory _ _ => none
  | file f => some f

/-- A tree with the children of directories reordered, in as many directories as one likes. -/
inductive Reordered : TreeNode → TreeNode → Prop where
  | refl (t : TreeNode) : Reordered t t
  | children (name : String) {trees trees' : List TreeNode} :
      trees.Perm trees' → Reordered (.directory name trees) (.directory name trees')
  | inside (name : String) (before after : List TreeNode) {t t' : TreeNode} :
      Reordered t t' →
        Reordered (.directory name (before ++ t :: after)) (.directory name (before ++ t' :: after))
  | trans {t t' t'' : TreeNode} : Reordered t t' → Reordered t' t'' → Reordered t t''

/-! ## Nodes in the order of the recursion -/

mutual

/-- The files among the nodes of a tree are listed parents first, from left to right. -/
theorem filterMap_withDepth (d : Nat) :
    ∀ t : TreeNode, (t.withDepth d).filterMap (·.2.file?) = t.fileList
  | directory name children => by
    rw [withDepth, List.filterMap_cons_none rfl, filterMap_withDepths (d + 1) children, fileList]
  | file _ => rfl

/-- Of the nodes of some trees, those that are files are all their files. -/
theorem filterMap_withDepths (d : Nat) :
    ∀ trees, (withDepths d trees).filterMap (·.2.file?) = fileLists trees
  | [] => rfl
  | first :: rest => by
    rw [withDepths, List.filterMap_append, filterMap_withDepth d first,
      filterMap_withDepths d rest, fileLists]

end

mutual

/-- Of the nodes of a tree, those that are directories are all its directories. -/
theorem countP_withDepth (d : Nat) :
    ∀ t : TreeNode, (t.withDepth d).countP (·.2.isDirectory) = t.directoryCount
  | directory name children => by
    rw [withDepth, List.countP_cons_of_pos rfl, countP_withDepths (d + 1) children, directoryCount]
  | file _ => rfl

/-- The number of directories among the nodes of some trees. -/
theorem countP_withDepths (d : Nat) :
    ∀ trees, (withDepths d trees).countP (·.2.isDirectory) = directoryCounts trees
  | [] => rfl
  | first :: rest => by
    rw [withDepths, List.countP_append, countP_withDepth d first, countP_withDepths d rest,
      directoryCounts]

end

/-! ## Trees in another order -/

theorem fileLists_eq_flatMap (trees : List TreeNode) : fileLists trees = trees.flatMap fileList := by
  induction trees with
  | nil => rfl
  | cons first rest ih => rw [fileLists, ih, List.flatMap_cons]

theorem directoryCounts_eq_sum (trees : List TreeNode) :
    directoryCounts trees = (trees.map directoryCount).sum := by
  induction trees with
  | nil => rfl
  | cons first rest ih => rw [directoryCounts, ih, List.map_cons, List.sum_cons]

namespace Reordered

variable {t t' : TreeNode}

/-- A reordered tree has the same files. -/
theorem fileList_perm (h : t.Reordered t') : t.fileList.Perm t'.fileList := by
  induction h with
  | refl t => exact .refl _
  | children name hperm =>
    simp only [fileList, fileLists_eq_flatMap]
    exact hperm.flatMap_right _
  | inside name before after _ ih =>
    simp only [fileList, fileLists_append, fileLists]
    exact (ih.append_right _).append_left _
  | trans _ _ ih ih' => exact ih.trans ih'

/-- A reordered tree has as many directories. -/
theorem directoryCount_eq (h : t.Reordered t') : t.directoryCount = t'.directoryCount := by
  induction h with
  | refl t => rfl
  | children name hperm =>
    simp only [directoryCount, directoryCounts_eq_sum]
    rw [(hperm.map directoryCount).sum_eq]
  | inside name before after _ ih =>
    simp only [directoryCount, directoryCounts_append, directoryCounts, ih]
  | trans _ _ ih ih' => exact ih.trans ih'

end Reordered

end TreeNode

/-! ## Counts -/

namespace ScanStats

/-- Counting files one by one adds what each of them contributes. -/
theorem foldl_addFile_eq (files : List FileNode) (s : ScanStats) :
    files.foldl addFile s = s + (files.map ofFile).sum := by
  induction files generalizing s with
  | nil => simp
  | cons f rest ih => rw [List.foldl_cons, ih, addFile_eq, List.map_cons, List.sum_cons, add_assoc]

/-- A figure to which neither statuses nor symbols contribute is not changed by files. -/
theorem figure_sum_ofFile (φ : ScanStats →+ Nat) (hkind : ∀ kind, φ (ofSymbol kind) = 0)
    (hstatus : ∀ status, φ (({} : ScanStats).addStatus status) = 0) (files : List FileNode) :
    φ (files.map ofFile).sum = 0 := by
  have hfile : ∀ f, φ (ofFile f) = 0 := by
    intro f
    rw [ofFile_eq, map_add, hstatus, map_list_sum, List.map_map]
    simp [Function.comp_def, hkind]
  rw [map_list_sum, List.map_map]
  simp [Function.comp_def, hfile]

theorem totalDirectories_sum_ofFile (files : List FileNode) :
    (files.map ofFile).sum.totalDirectories = 0 :=
  figure_sum_ofFile totalDirectoriesHom (fun kind => by cases kind <;> rfl)
    (fun status => by cases status <;> rfl) files

theorem walkErrors_sum_ofFile (files : List FileNode) :
    (files.map ofFile).sum.walkErrors = 0 :=
  figure_sum_ofFile walkErrorsHom (fun kind => by cases kind <;> rfl)
    (fun status => by cases status <;> rfl) files

/-- The counts of a tree, be it a directory or a file: all directories but the root, and what the
files contribute. -/
theorem ofTree_eq (t : TreeNode) :
    ofTree t = ofDirectories (t.directoryCount - 1) + (t.fileList.map ofFile).sum := by
  have hcounted : addTrees {} [t]
      = ofDirectories t.directoryCount + (t.fileList.map ofFile).sum := by
    rw [addTrees_eq, ← zero_def, zero_add, TreeNode.directoryCounts, TreeNode.directoryCounts,
      TreeNode.fileLists, TreeNode.fileLists, List.append_nil, Nat.add_zero]
  -- Files contribute no directories, so the root is taken off those that were met.
  have hnone := totalDirectories_sum_ofFile t.fileList
  rw [ofTree, hcounted]
  simp [add_def, ofDirectories, hnone]

end ScanStats

/-- Listing and counting a tree with a stack agree with the recursion on the tree. The files are
listed in the order of the recursion. The directories are those below the root, no walk error is
counted, and the other figures are those of counting the files one by one. So the counts are the
same if the children of directories are reordered. -/
theorem TreeNode.files_and_counts (t : TreeNode) :
    t.files = t.fileList ∧ t.fileList = (t.withDepth 0).filterMap (·.2.file?) ∧
    (ScanStats.ofTree t).totalDirectories = t.belowRoot.countP (·.2.isDirectory) ∧
    (t.isDirectory = false → (ScanStats.ofTree t).totalDirectories = 0) ∧
    (ScanStats.ofTree t).walkErrors = 0 ∧
    ScanStats.ofTree t = { t.files.foldl ScanStats.addFile {} with
      totalDirectories := (ScanStats.ofTree t).totalDirectories } ∧
    ∀ u, t.Reordered u → ScanStats.ofTree u = ScanStats.ofTree t := by
  have hfiles : t.files = t.fileList := by
    rw [files, filesFrom_eq_fileLists, fileLists, fileLists, List.append_nil]
  have hdirectories : (ScanStats.ofTree t).totalDirectories = t.directoryCount - 1 := by
    rw [ScanStats.ofTree_eq]
    exact congrArg (t.directoryCount - 1 + ·) (ScanStats.totalDirectories_sum_ofFile t.fileList)
  have herrors : (ScanStats.ofTree t).walkErrors = 0 := by
    rw [ScanStats.ofTree_eq]
    exact (Nat.zero_add _).trans (ScanStats.walkErrors_sum_ofFile t.fileList)
  refine ⟨hfiles, (filterMap_withDepth 0 t).symm, ?_, ?_, herrors, ?_, ?_⟩
  · rw [hdirectories, belowRoot, countP_withDepths]
    cases t with
    | directory name children => rfl
    | file f => rfl
  · intro hfile
    rw [hdirectories]
    cases t with
    | directory name children => cases hfile
    | file f => rfl
  · rw [hfiles, ScanStats.foldl_addFile_eq, ← ScanStats.zero_def, zero_add, hdirectories,
      ScanStats.ofTree_eq]
    simp [ScanStats.add_def, ScanStats.ofDirectories, ScanStats.totalDirectories_sum_ofFile]
  · intro u hu
    calc ScanStats.ofTree u
      _ = .ofDirectories (u.directoryCount - 1) + (u.fileList.map .ofFile).sum :=
          ScanStats.ofTree_eq u
      _ = .ofDirectories (t.directoryCount - 1) + (t.fileList.map .ofFile).sum := by
          rw [hu.directoryCount_eq, (hu.fileList_perm.map ScanStats.ofFile).sum_eq]
      _ = ScanStats.ofTree t := (ScanStats.ofTree_eq t).symm

/-- A directory with two scripts in a directory of their own, and a script beside it. -/
def nestedScripts : TreeNode :=
  .directory "r" [.directory "a" [.file ⟨"x.js", [], .javaScript, .parsed⟩,
    .file ⟨"y.ts", [], .typeScript, .unreadable⟩], .file ⟨"z.tsx", [], .tsx, .tooLarge⟩]

def nestedScriptsReversed : TreeNode :=
  .directory "r" [.file ⟨"z.tsx", [], .tsx, .tooLarge⟩, .directory "a"
    [.file ⟨"y.ts", [], .typeScript, .unreadable⟩, .file ⟨"x.js", [], .javaScript, .parsed⟩]]

/-- Both orders of the nested scripts have the same counts, and a script alone has no directory. -/
theorem files_and_counts_nestedScripts :
    nestedScripts.Reordered nestedScriptsReversed ∧
    ScanStats.ofTree nestedScriptsReversed = ScanStats.ofTree nestedScripts ∧
    (ScanStats.ofTree nestedScripts).totalDirectories = 1 ∧
    (TreeNode.file ⟨"x.js", [], .javaScript, .parsed⟩).isDirectory = false ∧
    (ScanStats.ofTree (.file ⟨"x.js", [], .javaScript, .parsed⟩)).totalDirectories = 0 := by
  have hreordered : nestedScripts.Reordered nestedScriptsReversed :=
    .trans (.inside "r" [] [_] (.children "a" (.swap _ _ _))) (.children "r" (.swap _ _ _))
  obtain ⟨-, -, hdirectories, -, -, -, hsame⟩ := nestedScripts.files_and_counts
  exact ⟨hreordered, hsame _ hreordered, hdirectories, rfl,
    (TreeNode.file ⟨"x.js", [], .javaScript, .parsed⟩).files_and_counts.2.2.2.1 rfl⟩

end CodeAtlas
