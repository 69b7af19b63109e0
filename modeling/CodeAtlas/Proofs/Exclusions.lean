import CodeAtlas.Proofs.Filters
import CodeAtlas.Proofs.TwoWalks

/-!
# More exclusions only prune

Settings that exclude more give a scan that is left of the other one. Hence the order of exclusions,
their repetition and the naming of a default do not matter, and an ignore file never brings back
what names or globs exclude.

- `ScanConfig.WidenedTo`: settings that exclude at least as much.
- `IgnoreFilter.exists_ofConfig_of_widened`: their filter passes over at least as much.
- `ProjectMap.LeftOf`: a map that is left of another one.
- `scanProject_leftOf_of_widened`: a scan that excludes more is left of one that excludes less.
- `scanProject_leftOf`: what this says of the lists of exclusions and of the ignore file.
-/

namespace CodeAtlas

/-! ## Settings -/

/-- The settings `c'` exclude at least what `c` does, and they differ in nothing else. -/
structure ScanConfig.WidenedTo (c c' : ScanConfig) : Prop where
  rest : c' = { c with
    excludedDirs := c'.excludedDirs
    ignorePatterns := c'.ignorePatterns
    gitignore := c'.gitignore }
  names : ∀ name, c.Excludes name → c'.Excludes name
  patterns : c.ignorePatterns ⊆ c'.ignorePatterns
  gitignore : c.gitignore = true → c'.gitignore = true

namespace ScanConfig.WidenedTo

variable {c c' : ScanConfig}

theorem root_eq (h : c.WidenedTo c') : c'.root = c.root := by
  rw [h.rest]

theorem followSymlinks_eq (h : c.WidenedTo c') : c'.followSymlinks = c.followSymlinks := by
  rw [h.rest]

theorem outline_eq (h : c.WidenedTo c') : c'.outline = c.outline := by
  rw [h.rest]
  rfl

theorem maxFileSize_eq (h : c.WidenedTo c') : c'.maxFileSize = c.maxFileSize := by
  rw [h.rest]

/-- Scripts are read alike. -/
theorem outlineFile_eq (h : c.WidenedTo c') (fs : FileSystem) (source : ScriptFile) :
    outlineFile fs c' source = outlineFile fs c source := by
  have hlimit := h.maxFileSize_eq
  have houtline := h.outline_eq
  simp only [outlineFile, readScript, outlineBytes, hlimit, houtline]

end ScanConfig.WidenedTo

/-- If settings that exclude more have a filter, those that exclude less have one that passes over
less. -/
theorem IgnoreFilter.exists_ofConfig_of_widened {fs : FileSystem} {c c' : ScanConfig}
    (h : c.WidenedTo c') {root : Location} {f' : IgnoreFilter}
    (hf' : ofConfig fs c' root = .ok f') :
    ∃ f, ofConfig fs c root = .ok f ∧ ∀ p isDirectory,
      f.ignores p isDirectory = true → f'.ignores p isDirectory = true := by
  obtain ⟨globs', gitignore', hglobs', hgitignore', rfl⟩ := ofConfig_eq_ok.1 hf'
  obtain ⟨globs, hglobs, hsubset⟩ := exists_readGlobs_of_subset h.patterns hglobs'
  -- Without an ignore file there are no rules, and otherwise the file is the same.
  have hrules : ∃ gitignore,
      (if c.gitignore then readGitignore fs root else .ok none) = .ok gitignore ∧
        (gitignore = none ∨ gitignore' = gitignore) := by
    cases hc : c.gitignore with
    | false => exact ⟨none, by simp, .inl rfl⟩
    | true =>
      rw [h.gitignore hc] at hgitignore'
      exact ⟨gitignore', by simpa using hgitignore', .inr rfl⟩
  obtain ⟨gitignore, hgitignore, hcases⟩ := hrules
  have hnames : ∀ name ∈ c.excludedNames, name ∈ c'.excludedNames := by
    intro name hname
    rw [ScanConfig.mem_excludedNames] at hname ⊢
    exact h.names name hname
  refine ⟨⟨root, c.excludedNames, globs, gitignore⟩, ?_, ?_⟩
  · exact ofConfig_eq_ok.2 ⟨globs, gitignore, hglobs, hgitignore, rfl⟩
  · intro p isDirectory
    refine ignores_mono ?_ ?_ ?_ ?_
    · rfl
    · exact hnames
    · exact hsubset
    · exact hcases

/-! ## Maps -/

/-- A map is left of another one: subtrees below its root are deleted, each node that is left has
the address that it had, and no figure is above that of the other map. -/
structure ProjectMap.LeftOf (small large : ProjectMap) : Prop where
  tree : small.tree.Pruned large.tree
  nodes : ∀ names n, small.tree.Descends names n →
    small.tree.find? ("/".intercalate names) = some n ∧
      ∃ m, large.tree.find? ("/".intercalate names) = some m ∧ n.Pruned m
  stats : small.stats ≤ large.stats

theorem ScanStats.le_antisymm {a b : ScanStats} (h : a ≤ b) (h' : b ≤ a) : a = b := by
  simp only [LE.le] at h h'
  ext <;> simp only [Nat.le_eq] at h h' <;> omega

/-- Maps that are left of each other are the same but for their metadata. -/
theorem ProjectMap.LeftOf.antisymm {a b : ProjectMap} (h : a.LeftOf b) (h' : b.LeftOf a) :
    a.tree = b.tree ∧ a.stats = b.stats :=
  ⟨h.tree.antisymm h'.tree, ScanStats.le_antisymm h.stats h'.stats⟩

/-- One map is left of another one, if this holds of their trees and of their figures. -/
theorem ProjectMap.leftOf_of_pruned {small large : ProjectMap} (hsmall : small.tree.Orderly)
    (hlarge : large.tree.Orderly) (htree : small.tree.Pruned large.tree)
    (hstats : small.stats ≤ large.stats) : small.LeftOf large where
  tree := htree
  nodes names n hn := by
    obtain ⟨m, hm, hpruned⟩ := htree.descends hn
    exact ⟨hsmall.addressable.found names n hn, m, hlarge.addressable.found names m hm, hpruned⟩
  stats := hstats

/-! ## Scans -/

/-- Walks with the filters of settings, one of which excludes more, go side by side. -/
theorem ScanConfig.WidenedTo.beside {fs : FileSystem} {c c' : ScanConfig} (h : c.WidenedTo c')
    {filter filter' : IgnoreFilter} (hignores : ∀ p isDirectory,
      filter.ignores p isDirectory = true → filter'.ignores p isDirectory = true) :
    (walkerOf fs c filter).Beside (walkerOf fs c' filter') (outlineFile fs c) (outlineFile fs c')
      fun v v' _ => v' = v where
  name := by
    rintro v v' t rfl
    rfl
  ignores := by
    rintro v v' t rfl isDirectory hignored
    exact hignores _ _ hignored
  read := by
    rintro v v' t rfl - language
    exact h.outlineFile_eq fs _
  child := by
    rintro v v' entries rfl e -
    rfl
  link := by
    rintro v v' target rfl
    exact .inr ⟨rfl, rfl, h.followSymlinks_eq, fun _ => rfl⟩

/-- A scan that excludes more is left of one that excludes less, which succeeds as well. -/
theorem scanProject_leftOf_of_widened {fs : FileSystem} (hfs : fs.WellFormed) {current : Location}
    {c c' : ScanConfig} (h : c.WidenedTo c') {metadata : ScanMetadata} {small : ProjectMap}
    (hsmall : scanProject fs current c' metadata = .ok small) :
    ∃ large, scanProject fs current c metadata = .ok large ∧ small.LeftOf large := by
  obtain ⟨s', hs', rfl⟩ := scanProject_eq_ok hsmall
  obtain ⟨-, filter', hfilter', trail, entries, children', hlocate, hnode, hlists', hentries'⟩ :=
    surveyProject_eq_ok hfs hs'
  have hresolve := resolveRoot_of_survey hs'
  rw [h.root_eq] at hresolve
  obtain ⟨filter, hfilter, hignores⟩ := IgnoreFilter.exists_ofConfig_of_widened h hfilter'
  obtain ⟨children, errors, large, hlists, hlarge, htree, hstats⟩ :=
    scanProject_of_directory hfs hresolve hfilter hlocate hnode metadata
  -- Both walks begin at the root, and go side by side from there.
  obtain ⟨hpruned, herrors⟩ :=
    ListsEntries.pruned (h.beside hignores) (fun _ _ => rfl) hlists hlists'
  refine ⟨large, hlarge, ?_⟩
  refine ProjectMap.leftOf_of_pruned (scanProject_orderly hfs hsmall)
    (scanProject_orderly hfs hlarge) ?_ ?_
  · rw [Survey.tree_toMap, Survey.tree_eq_projectTree hentries', htree]
    exact .directory _ hpruned
  · rw [Survey.toMap, Survey.tree_eq_projectTree hentries', hstats, htree]
    exact hpruned.stats_le herrors _

/-- Settings that exclude the same give the same tree and the same figures. -/
theorem scanProject_sameSuccess_of_widened {fs : FileSystem} (hfs : fs.WellFormed)
    {current : Location} {c c' : ScanConfig} (h : c.WidenedTo c') (h' : c'.WidenedTo c)
    (metadata : ScanMetadata) :
    SameSuccess (fun a b => a.tree = b.tree ∧ a.stats = b.stats)
      (scanProject fs current c metadata) (scanProject fs current c' metadata) := by
  cases hscan : scanProject fs current c metadata with
  | ok map =>
    obtain ⟨map', hscan', hleft⟩ := scanProject_leftOf_of_widened hfs h' hscan
    obtain ⟨same, hsame, hleft'⟩ := scanProject_leftOf_of_widened hfs h hscan'
    obtain rfl : map = same := Except.ok.inj (hscan.symm.trans hsame)
    rw [hscan']
    exact .ok (hleft.antisymm hleft')
  | error e =>
    cases hscan' : scanProject fs current c' metadata with
    | error e' => exact .error e e'
    | ok map' =>
      obtain ⟨map, hmap, -⟩ := scanProject_leftOf_of_widened hfs h hscan'
      simp [hscan] at hmap

/-- If the lists of exclusions grow, a scan is left of what it was. If they exclude the same, each
in its own order, with repetitions, or with defaults among them, nothing changes. And whatever names
and globs exclude stays excluded if an ignore file is honoured: the scan is left of the one that
does not honour it. -/
theorem scanProject_leftOf {fs : FileSystem} (hfs : fs.WellFormed) (current : Location)
    (c : ScanConfig) (metadata : ScanMetadata) :
    (∀ dirs patterns small, c.excludedDirs ⊆ dirs → c.ignorePatterns ⊆ patterns →
      scanProject fs current { c with excludedDirs := dirs, ignorePatterns := patterns } metadata
        = .ok small →
      ∃ large, scanProject fs current c metadata = .ok large ∧ small.LeftOf large) ∧
    (∀ dirs patterns, (∀ name, c.Excludes name ↔ { c with excludedDirs := dirs }.Excludes name) →
      (∀ pattern, pattern ∈ c.ignorePatterns ↔ pattern ∈ patterns) →
      SameSuccess (fun a b => a.tree = b.tree ∧ a.stats = b.stats)
        (scanProject fs current c metadata)
        (scanProject fs current { c with excludedDirs := dirs, ignorePatterns := patterns }
          metadata)) ∧
    (∀ small, scanProject fs current c metadata = .ok small →
      ∃ large, scanProject fs current { c with gitignore := false } metadata = .ok large ∧
        small.LeftOf large) := by
  refine ⟨?_, ?_, ?_⟩
  · intro dirs patterns small hdirs hpatterns hsmall
    have hnames : ∀ name, c.Excludes name →
        { c with excludedDirs := dirs, ignorePatterns := patterns }.Excludes name := by
      rintro name (hdefault | hlisted)
      · exact .inl hdefault
      · exact .inr (hdirs hlisted)
    have hwidened : c.WidenedTo { c with excludedDirs := dirs, ignorePatterns := patterns } :=
      ⟨rfl, hnames, hpatterns, id⟩
    exact scanProject_leftOf_of_widened hfs hwidened hsmall
  · intro dirs patterns hdirs hpatterns
    have hwidened : c.WidenedTo { c with excludedDirs := dirs, ignorePatterns := patterns } :=
      ⟨rfl, fun name => (hdirs name).1, fun pattern => (hpatterns pattern).1, id⟩
    have hback : { c with excludedDirs := dirs, ignorePatterns := patterns }.WidenedTo c :=
      ⟨rfl, fun name => (hdirs name).2, fun pattern => (hpatterns pattern).2, id⟩
    exact scanProject_sameSuccess_of_widened hfs hwidened hback metadata
  · intro small hsmall
    have hwidened : { c with gitignore := false }.WidenedTo c :=
      ⟨rfl, fun _ => id, fun _ => id, by simp⟩
    exact scanProject_leftOf_of_widened hfs hwidened hsmall

/-- Without the directory of its script the small project keeps the link to it, and it is left of
the whole. -/
theorem scanProject_leftOf_smallProject :
    smallProject.WellFormed ∧ ∃ small large,
      scanProject smallProject [] { strictSettings with excludedDirs := ["src"] } {} = .ok small ∧
      scanProject smallProject [] strictSettings {} = .ok large ∧
      small.tree = .directory "p" [rejectedJavaScript, .directory "l" [rejectedTypeScript]] ∧
      small.LeftOf large := by
  have hsmall : ∃ small,
      scanProject smallProject [] { strictSettings with excludedDirs := ["src"] } {} = .ok small ∧
      small.tree = .directory "p" [rejectedJavaScript, .directory "l" [rejectedTypeScript]] :=
    ⟨_, rfl, by cbv⟩
  obtain ⟨small, hsmall, htree⟩ := hsmall
  obtain ⟨hgrown, -, -⟩ := scanProject_leftOf smallProject_wellFormed [] strictSettings {}
  obtain ⟨large, hlarge, hleft⟩ :=
    hgrown ["src"] [] small (List.nil_subset _) (List.Subset.refl _) hsmall
  exact ⟨smallProject_wellFormed, small, large, hsmall, hlarge, htree, hleft⟩

end CodeAtlas
