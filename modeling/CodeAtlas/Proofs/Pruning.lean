import CodeAtlas.Proofs.Addresses

/-!
# Pruned trees

A tree is pruned by deleting whole subtrees below its root. What is left is found where it was, and
nothing is counted more often than before.

- `TreeNode.PrunedAll`, `TreeNode.Pruned`: what is left of some trees, and of one tree.
- `TreeNode.Pruned.descends`: the nodes that are left are where they were.
- `TreeNode.Pruned.antisymm`: trees that are left of each other are the same.
- `TreeNode.PrunedAll.stats_le`: no figure of what is left is above that of the whole.
-/

namespace CodeAtlas

namespace TreeNode

/-- Some trees are left of others: each of these is kept, with some trees below it deleted, or it is
deleted. The order stays. -/
inductive PrunedAll : List TreeNode → List TreeNode → Prop where
  | nil : PrunedAll [] []
  | file (f : FileNode) {small large : List TreeNode} :
      PrunedAll small large → PrunedAll (.file f :: small) (.file f :: large)
  | directory (name : String) {inner inner' small large : List TreeNode} :
      PrunedAll inner inner' → PrunedAll small large →
        PrunedAll (.directory name inner :: small) (.directory name inner' :: large)
  | deleted (t : TreeNode) {small large : List TreeNode} :
      PrunedAll small large → PrunedAll small (t :: large)

/-- A tree is left of another one, the root of which is kept. -/
inductive Pruned : TreeNode → TreeNode → Prop where
  | file (f : FileNode) : Pruned (.file f) (.file f)
  | directory (name : String) {small large : List TreeNode} :
      PrunedAll small large → Pruned (.directory name small) (.directory name large)

theorem Pruned.name_eq {t u : TreeNode} (h : t.Pruned u) : t.name = u.name := by
  cases h <;> rfl

namespace PrunedAll

variable {small large : List TreeNode}

/-- Nothing is left of any trees, if all are deleted. -/
theorem nil_left (trees : List TreeNode) : PrunedAll [] trees := by
  induction trees with
  | nil => exact .nil
  | cons t rest ih => exact .deleted t ih

theorem append {small' large' : List TreeNode} (h : PrunedAll small large)
    (h' : PrunedAll small' large') : PrunedAll (small ++ small') (large ++ large') := by
  induction h with
  | nil => exact h'
  | file f _ ih => exact .file f ih
  | directory name hinner _ _ ih => exact .directory name hinner ih
  | deleted t _ ih => exact .deleted t ih

/-! ## Places -/

/-- What is left of some trees is left of one of them. -/
theorem exists_of_mem (h : PrunedAll small large) {t : TreeNode} (ht : t ∈ small) :
    ∃ u ∈ large, t.Pruned u := by
  induction h with
  | nil => simp at ht
  | file f _ ih =>
    rcases List.mem_cons.1 ht with rfl | ht
    · exact ⟨_, List.mem_cons_self, .file f⟩
    · obtain ⟨u, hu, hpruned⟩ := ih ht
      exact ⟨u, List.mem_cons_of_mem _ hu, hpruned⟩
  | directory name hinner _ _ ih =>
    rcases List.mem_cons.1 ht with rfl | ht
    · exact ⟨_, List.mem_cons_self, .directory name hinner⟩
    · obtain ⟨u, hu, hpruned⟩ := ih ht
      exact ⟨u, List.mem_cons_of_mem _ hu, hpruned⟩
  | deleted t _ ih =>
    obtain ⟨u, hu, hpruned⟩ := ih ht
    exact ⟨u, List.mem_cons_of_mem _ hu, hpruned⟩

end PrunedAll

/-- The nodes that are left are where they were. -/
theorem Pruned.descends {t u n : TreeNode} {names : List String} (h : t.Pruned u)
    (hn : t.Descends names n) : ∃ m, u.Descends names m ∧ n.Pruned m := by
  induction hn generalizing u with
  | here t => exact ⟨u, .here u, h⟩
  | child hmem _ ih =>
    cases h with
    | directory name hchildren =>
      obtain ⟨d, hd, hpruned⟩ := hchildren.exists_of_mem hmem
      obtain ⟨m, hm, hleft⟩ := ih hpruned
      rw [hpruned.name_eq]
      exact ⟨m, .child hd hm, hleft⟩

namespace PrunedAll

variable {small large : List TreeNode}

/-! ## Sizes -/

/-- Deleting trees leaves no more nodes than there were. -/
theorem sizes_le (h : PrunedAll small large) : sizes small ≤ sizes large := by
  induction h with
  | nil => exact Nat.le_refl _
  | file f _ ih =>
    simp only [sizes]
    omega
  | directory name _ _ ihinner ih =>
    simp only [sizes, size]
    omega
  | deleted t _ ih =>
    simp only [sizes]
    omega

theorem size_pos (t : TreeNode) : 0 < t.size := by
  cases t <;> simp [size]

/-- If as many nodes are left as there were, nothing is deleted. -/
theorem eq_of_sizes_le (h : PrunedAll small large) (hsizes : sizes large ≤ sizes small) :
    small = large := by
  induction h with
  | nil => rfl
  | file f _ ih =>
    simp only [sizes] at hsizes
    rw [ih (by omega)]
  | directory name hinner hrest ihinner ih =>
    -- Neither the inner trees nor those behind can make up for what the others lack.
    have hle := hinner.sizes_le
    have hle' := hrest.sizes_le
    simp only [sizes, size] at hsizes
    rw [ihinner (by omega), ih (by omega)]
  | deleted t hrest ih =>
    have hle := hrest.sizes_le
    have hpos := size_pos t
    simp only [sizes] at hsizes
    omega

/-- Trees that are left of each other are the same. -/
theorem antisymm (h : PrunedAll small large) (h' : PrunedAll large small) : small = large :=
  h.eq_of_sizes_le h'.sizes_le

end PrunedAll

/-- Trees that are left of each other are the same. -/
theorem Pruned.antisymm {t u : TreeNode} (h : t.Pruned u) (h' : u.Pruned t) : t = u := by
  cases h with
  | file f => rfl
  | directory name hchildren =>
    cases h' with
    | directory _ hchildren' => rw [hchildren.antisymm hchildren']

/-! ## Files and directories -/

namespace PrunedAll

variable {small large : List TreeNode}

/-- The files that are left stand in their order. -/
theorem fileLists_sublist (h : PrunedAll small large) :
    (fileLists small).Sublist (fileLists large) := by
  induction h with
  | nil => exact .slnil
  | file f _ ih => exact ih.cons_cons f
  | directory name _ _ ihinner ih => exact ihinner.append ih
  | deleted t _ ih => exact ih.trans (List.sublist_append_right _ _)

theorem directoryCounts_le (h : PrunedAll small large) :
    directoryCounts small ≤ directoryCounts large := by
  induction h with
  | nil => exact Nat.le_refl _
  | file f _ ih =>
    simp only [directoryCounts]
    omega
  | directory name _ _ ihinner ih =>
    simp only [directoryCounts, directoryCount]
    omega
  | deleted t _ ih =>
    simp only [directoryCounts]
    omega

end PrunedAll

end TreeNode

/-! ## Counts -/

namespace ScanStats

instance : LE ScanStats where
  le a b :=
    a.totalDirectories ≤ b.totalDirectories ∧ a.totalFiles ≤ b.totalFiles ∧
    a.totalSymbols ≤ b.totalSymbols ∧ a.functions ≤ b.functions ∧ a.classes ≤ b.classes ∧
    a.methods ≤ b.methods ∧ a.routes ≤ b.routes ∧ a.parsedFiles ≤ b.parsedFiles ∧
    a.recoveredFiles ≤ b.recoveredFiles ∧ a.unparsableFiles ≤ b.unparsableFiles ∧
    a.unreadableFiles ≤ b.unreadableFiles ∧ a.oversizedFiles ≤ b.oversizedFiles ∧
    a.walkErrors ≤ b.walkErrors

/-- Adding to counts lowers no figure. -/
theorem le_add (a b : ScanStats) : a ≤ a + b := by
  simp only [LE.le, add_def]
  simp

/-- More files contribute something more. -/
theorem exists_sum_ofFile {files files' : List FileNode} (h : files.Sublist files') :
    ∃ more, (files'.map ofFile).sum = (files.map ofFile).sum + more := by
  obtain ⟨rest, hperm⟩ := h.exists_perm_append
  refine ⟨(rest.map ofFile).sum, ?_⟩
  rw [← List.sum_append, ← List.map_append]
  exact (hperm.map ofFile).sum_eq

theorem exists_ofDirectories {m n : Nat} (h : m ≤ n) :
    ∃ more, ofDirectories n = ofDirectories m + more := by
  obtain ⟨k, rfl⟩ := Nat.exists_eq_add_of_le h
  exact ⟨ofDirectories k, ofDirectories_add m k⟩

theorem exists_ofErrors {m n : Nat} (h : m ≤ n) : ∃ more, ofErrors n = ofErrors m + more := by
  obtain ⟨k, rfl⟩ := Nat.exists_eq_add_of_le h
  exact ⟨ofErrors k, by simp [ofErrors, add_def]⟩

end ScanStats

/-- No figure of what is left is above that of the whole, if no error is added. -/
theorem TreeNode.PrunedAll.stats_le {small large : List TreeNode} (h : PrunedAll small large)
    {errors errors' : Nat} (herrors : errors ≤ errors') (name : String) :
    { ScanStats.ofTree (.directory name small) with walkErrors := errors }
      ≤ { ScanStats.ofTree (.directory name large) with walkErrors := errors' } := by
  obtain ⟨directories, hdirectories⟩ := ScanStats.exists_ofDirectories h.directoryCounts_le
  obtain ⟨files, hfiles⟩ := ScanStats.exists_sum_ofFile h.fileLists_sublist
  obtain ⟨faults, hfaults⟩ := ScanStats.exists_ofErrors herrors
  -- The whole contributes what is left and three summands more.
  have hsum : { ScanStats.ofTree (.directory name large) with walkErrors := errors' }
      = { ScanStats.ofTree (.directory name small) with walkErrors := errors }
        + (directories + files + faults) := by
    rw [ScanStats.withErrors_eq (ScanStats.walkErrors_ofTree_directory _ _),
      ScanStats.withErrors_eq (ScanStats.walkErrors_ofTree_directory _ _),
      ScanStats.ofTree_directory, ScanStats.ofTree_directory, hdirectories, hfiles, hfaults]
    abel
  rw [hsum]
  exact ScanStats.le_add _ _

end CodeAtlas
