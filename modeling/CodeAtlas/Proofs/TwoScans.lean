import CodeAtlas.Proofs.Counting
import CodeAtlas.Proofs.Reading
import CodeAtlas.Proofs.ScriptPlaces
import CodeAtlas.Proofs.SiblingOrder

/-!
# Two scans side by side

Scans that find the same scripts agree in everything but the scripts.

- `SameOutcome`: both fail for the same reason, or both succeed with results that are related.
- `SameSuccess`: both fail for some reason, or both succeed with results that are related.
- `scanProject_sameOutcome`: scans with one survey have the same outcome.
- `Survey.Lays`: what a survey knows of the scripts that it found.
- `Survey.Lays.nodes`: two readings of a survey, node by node.
- `Survey.Lays.skeleton_eq`, `Survey.Lays.stats_eq`: the rest of the tree, and the counts.
-/

namespace CodeAtlas

/-- Both fail for the same reason, or both succeed with results that are related. -/
inductive SameOutcome {ε α : Type} (related : α → α → Prop) : Except ε α → Except ε α → Prop where
  | error (e : ε) : SameOutcome related (.error e) (.error e)
  | ok {a b : α} : related a b → SameOutcome related (.ok a) (.ok b)

/-- Both fail, for whatever reason, or both succeed with results that are related. -/
inductive SameSuccess {ε α : Type} (related : α → α → Prop) : Except ε α → Except ε α → Prop where
  | error (e e' : ε) : SameSuccess related (.error e) (.error e')
  | ok {a b : α} : related a b → SameSuccess related (.ok a) (.ok b)

theorem SameOutcome.of_ok {ε α : Type} {related : α → α → Prop} {a b : α}
    (h : SameOutcome related (.ok a : Except ε α) (.ok b)) : related a b := by
  cases h with
  | ok h => exact h

/-- Both results are errors, or both are related values. -/
theorem SameSuccess.cases_eq {ε α : Type} {related : α → α → Prop} {x y : Except ε α}
    (h : SameSuccess related x y) :
    (∃ e e', x = .error e ∧ y = .error e') ∨ ∃ a b, x = .ok a ∧ y = .ok b ∧ related a b := by
  cases h with
  | error e e' => exact .inl ⟨e, e', rfl, rfl⟩
  | ok h => exact .inr ⟨_, _, rfl, rfl, h⟩

/-- Scans with one survey have the same outcome. -/
theorem scanProject_sameOutcome {related : ProjectMap → ProjectMap → Prop} {fs fs' : FileSystem}
    {current current' : Location} {c c' : ScanConfig} {metadata metadata' : ScanMetadata}
    (hsurvey : surveyProject fs current c = surveyProject fs' current' c')
    (h : ∀ s, surveyProject fs current c = .ok s →
      related (s.toMap fs c metadata) (s.toMap fs' c' metadata')) :
    SameOutcome related (scanProject fs current c metadata)
      (scanProject fs' current' c' metadata') := by
  rw [scanProject_eq_map, scanProject_eq_map, ← hsurvey]
  cases hs : surveyProject fs current c with
  | error e => exact .error e
  | ok s => exact .ok (h s hs)

namespace Survey

/-- A survey of a root at `real` has found the scripts of some layouts, and each of them is where its
names lead to. No two have the same names. -/
structure Lays (s : Survey) (fs : FileSystem) (c : ScanConfig) (real : Location)
    (children : List Layout) : Prop where
  entries : s.walked.entries = Layout.entriesAll 1 children
  isAt : ∀ p ∈ Layout.placedAll children, p.2.IsAt fs (s.root ++ p.1)
  unlinked : c.followSymlinks = false → ∀ p ∈ Layout.placedAll children, ∀ trail,
    fs.locate [] p.2.path = .ok trail → trail.location = real ++ p.1
  nodup : ((Layout.placedAll children).map (·.1)).Nodup

/-- Whatever a survey found are the entries of some layouts. -/
theorem exists_lays {fs : FileSystem} (hfs : fs.WellFormed) {current : Location} {c : ScanConfig}
    {s : Survey} (h : surveyProject fs current c = .ok s) :
    ∃ trail children, fs.locate [] (.ofLocation s.root) = .ok trail ∧
      s.Lays fs c trail.location children := by
  obtain ⟨-, filter, -, trail, entries, children, hlocate, hnode, hlists, hentries⟩ :=
    surveyProject_eq_ok hfs h
  have hscripts := fun p (hp : p ∈ Layout.placedAll children) =>
    hlists.reaches_of_mem_placed hfs hlocate hnode hp
  obtain ⟨hrise, hrising⟩ := hlists.rising
  exact ⟨trail, children, hlocate,
    { entries := hentries
      isAt := fun p hp => (hscripts p hp).isAt
      unlinked := fun hnot p hp => (hscripts p hp).unlinked hnot
      nodup := Layout.nodup_placedAll hrise hrising }⟩

variable {s : Survey} {fs : FileSystem} {c : ScanConfig} {real : Location}
  {children : List Layout}

theorem tree_toMap (s : Survey) (fs : FileSystem) (c : ScanConfig) (metadata : ScanMetadata) :
    (s.toMap fs c metadata).tree = s.tree fs c := rfl

/-- The names of a script below the root end with its own. -/
theorem Lays.exists_names (h : s.Lays fs c real children) {p : List Name × ScriptFile}
    (hp : p ∈ Layout.placedAll children) : ∃ below, p.1 = below ++ [p.2.name] := by
  obtain ⟨around, hnames⟩ := (h.isAt p hp).name
  obtain ⟨l, -, q, -, hpq⟩ := Layout.mem_placedAll.1 hp
  have hne : p.1 ≠ [] := by rw [hpq]; exact List.cons_ne_nil _ _
  have hlast : p.1.getLast? = some p.2.name := by
    rw [← List.getLast?_append_of_ne_nil s.root hne, hnames, List.getLast?_concat]
  exact List.getLast?_eq_some_iff.1 hlast

/-- The files of the tree are the scripts, read. -/
theorem Lays.placed_tree (h : s.Lays fs c real children) (fs' : FileSystem) (c' : ScanConfig) :
    (s.tree fs' c').placed
      = (Layout.placedAll children).map (Layout.placeRead (outlineFile fs' c')) := by
  rw [tree_eq_projectTree h.entries, projectTree, TreeNode.placed,
    Layout.placedAll_fillAll fun _ => rfl]

/-- Two readings are related, if this holds script by script. -/
theorem Lays.nodes (h : s.Lays fs c real children) {fs₁ fs₂ : FileSystem} {c₁ c₂ : ScanConfig}
    {related : List String × FileNode → List String × FileNode → Prop}
    (hscripts : ∀ p ∈ Layout.placedAll children,
      related (Layout.placeRead (outlineFile fs₁ c₁) p) (Layout.placeRead (outlineFile fs₂ c₂) p)) :
    List.Forall₂ related (s.tree fs₁ c₁).placed (s.tree fs₂ c₂).placed := by
  rw [h.placed_tree, h.placed_tree, List.forall₂_map_left_iff, List.forall₂_map_right_iff,
    List.forall₂_same]
  exact hscripts

/-- Two readings have the same skeleton. -/
theorem Lays.skeleton_eq (h : s.Lays fs c real children) (fs₁ fs₂ : FileSystem)
    (c₁ c₂ : ScanConfig) : (s.tree fs₁ c₁).skeleton = (s.tree fs₂ c₂).skeleton := by
  simp only [tree_eq_projectTree h.entries, projectTree, TreeNode.skeleton]
  rw [Layout.skeleton_fillAll (fun _ => rfl) fun _ => rfl,
    Layout.skeleton_fillAll (fun _ => rfl) fun _ => rfl]

/-! ## Counts -/

def directoryCount (children : List Layout) : Nat :=
  TreeNode.directoryCounts (Layout.fillAll Layout.bare children)

/-- A filled tree has the directories of its layouts. -/
theorem directoryCounts_fillAll (fs' : FileSystem) (c' : ScanConfig) (children : List Layout) :
    TreeNode.directoryCounts (Layout.fillAll (outlineFile fs' c') children)
      = directoryCount children := by
  rw [← TreeNode.directoryCounts_skeletons,
    Layout.skeleton_fillAll (fun _ => rfl) fun _ => rfl, directoryCount]

/-- A filled tree has the scripts of its layouts, each once read. -/
theorem fileLists_fillAll (fs' : FileSystem) (c' : ScanConfig) (children : List Layout) :
    TreeNode.fileLists (Layout.fillAll (outlineFile fs' c') children)
      = (Layout.placedAll children).map fun p => outlineFile fs' c' p.2 :=
  Layout.fileLists_fillAll (fun _ => rfl) children

/-- What is counted in a survey, as a sum. -/
theorem Lays.stats_eq (h : s.Lays fs c real children) (fs' : FileSystem) (c' : ScanConfig)
    (metadata : ScanMetadata) : (s.toMap fs' c' metadata).stats
      = .ofDirectories (directoryCount children)
        + ((Layout.placedAll children).map fun p => .ofFile (outlineFile fs' c' p.2)).sum
        + .ofErrors s.walked.errors := by
  rw [toMap, tree_eq_projectTree h.entries, projectTree,
    ScanStats.withErrors_eq (ScanStats.walkErrors_ofTree_directory _ _),
    ScanStats.ofTree_directory, fileLists_fillAll, directoryCounts_fillAll, List.map_map]
  rfl

/-- The number of files with a status is that of scripts whose outline has it. -/
theorem Lays.count_stats (h : s.Lays fs c real children) (fs' : FileSystem) (c' : ScanConfig)
    (metadata : ScanMetadata) (status : FileStatus) :
    (s.toMap fs' c' metadata).stats.count status
      = (Layout.placedAll children).countP fun p => (outlineFile fs' c' p.2).status = status := by
  have hcount : (s.toMap fs' c' metadata).stats.count status
      = (ScanStats.ofTree (s.tree fs' c')).count status := by
    cases status <;> rfl
  rw [hcount, tree_eq_projectTree h.entries, projectTree, ScanStats.count_ofTree_directory,
    fileLists_fillAll, List.countP_map]
  rfl

/-- The figures that do not depend on how the scripts are read. -/
theorem Lays.totals (h : s.Lays fs c real children) (fs' : FileSystem) (c' : ScanConfig)
    (metadata : ScanMetadata) :
    (s.toMap fs' c' metadata).stats.totalDirectories = directoryCount children ∧
      (s.toMap fs' c' metadata).stats.totalFiles = (Layout.placedAll children).length ∧
      (s.toMap fs' c' metadata).stats.walkErrors = s.walked.errors := by
  refine ⟨?_, ?_, rfl⟩
  · simp only [toMap, tree_eq_projectTree h.entries, projectTree]
    rw [ScanStats.totalDirectories_ofTree_directory, directoryCounts_fillAll]
  · simp only [toMap, tree_eq_projectTree h.entries, projectTree]
    rw [ScanStats.totalFiles_ofTree_directory, fileLists_fillAll, List.length_map]

end Survey

end CodeAtlas
