import CodeAtlas.Proofs.Filters
import CodeAtlas.Proofs.IgnoreFile
import CodeAtlas.Proofs.IgnoreLines
import CodeAtlas.Proofs.LastPiece
import CodeAtlas.Proofs.TwoScans

/-!
# When scans fail

A scan fails because of its settings, because of the ignore file of its root, or because of the
root. Nothing below the root makes it fail: every script that the walk finds has its node, whatever
the script holds.

- `IgnoreFilter.IsGlob`: a pattern of the settings that can be read.
- `IgnoreFilter.Spoilt`: an ignore file that is there and cannot be used.
- `SetupOutcome`: when there is a scanner, and why there is none otherwise.
- `Scanner.Outcome`: when a scanner gives a map, and why it gives none otherwise.
- `scanner_outcomes`: these are the outcomes, for all settings and file systems.
-/

namespace CodeAtlas

/-! ## Patterns -/

namespace IgnoreFilter

def IsGlob (pattern : String) : Prop := ∃ glob, Glob.read rules pattern.toList = .ok glob

/-- If there are no globs, a pattern is to blame. -/
theorem readGlobs_eq_error {patterns : List String} {e : ConfigError}
    (h : readGlobs patterns = .error e) : ∃ pattern fault, e = .glob pattern fault := by
  induction patterns with
  | nil => simp [readGlobs, pure, Except.pure] at h
  | cons pattern rest ih =>
    simp only [readGlobs, List.mapM_cons] at h
    cases hread : Glob.read rules pattern.toList with
    | error fault => exact ⟨pattern, fault, by simpa [hread, bind, Except.bind] using h.symm⟩
    | ok glob =>
      cases hrest : readGlobs rest with
      | error e' =>
        have hsame : e' = e := by
          rw [readGlobs] at hrest
          simpa [hread, hrest, bind, Except.bind] using h
        exact ih (hsame ▸ hrest)
      | ok globs =>
        rw [readGlobs] at hrest
        simp [hread, hrest, bind, Except.bind, pure, Except.pure] at h

/-! ## The ignore file -/

def filePath (root : Location) : Path := .ofLocation (root ++ [fileName])

/-- An ignore file that is there, but cannot be read, or cannot be used. -/
def Spoilt (fs : FileSystem) (root : Location) : Prop :=
  fs.hasPath [] (filePath root) = true ∧
    ∀ bytes, fs.read [] (filePath root) = .ok bytes → ¬Gitignore.Usable bytes

/-- An ignore file can be used unless it is spoilt. -/
theorem exists_readGitignore_iff {fs : FileSystem} {root : Location} :
    (∃ g, readGitignore fs root = .ok g) ↔ ¬Spoilt fs root := by
  have hfile : filePath root = .ofLocation (root ++ [fileName]) := rfl
  rw [Spoilt, hfile, readGitignore]
  cases hpath : fs.hasPath [] (.ofLocation (root ++ [fileName])) with
  | false => simp
  | true =>
    cases hread : fs.read [] (.ofLocation (root ++ [fileName])) with
    | error e => cases e <;> simp
    | ok bytes =>
      have hrules : (∃ g, Gitignore.ofBytes root bytes = .ok g) ↔ Gitignore.Usable bytes :=
        Gitignore.exists_ofBytes_iff
      cases hbytes : Gitignore.ofBytes root bytes <;> simp_all

/-- The only error on reading an ignore file is one about this file. -/
theorem readGitignore_eq_error {fs : FileSystem} {root : Location} {e : ConfigError}
    (h : readGitignore fs root = .error e) : ∃ file faults, e = .gitignore file faults := by
  rw [readGitignore] at h
  cases hpath : fs.hasPath [] (.ofLocation (root ++ [fileName])) with
  | false => simp [hpath] at h
  | true =>
    cases hread : fs.read [] (.ofLocation (root ++ [fileName])) with
    | error error =>
      cases error <;> simp [hpath, hread] at h <;> exact ⟨_, _, h.symm⟩
    | ok bytes =>
      cases hbytes : Gitignore.ofBytes root bytes with
      | error faults =>
        simp only [hpath, hread, hbytes] at h
        exact ⟨_, faults, by simpa using h.symm⟩
      | ok g => simp [hpath, hread, hbytes] at h

/-- An ignore file that is missing is not spoilt. -/
theorem not_spoilt_of_missing {fs : FileSystem} {root : Location}
    (h : ∀ trail, fs.locate [] (filePath root) ≠ .ok trail) : ¬Spoilt fs root := by
  rintro ⟨hpath, -⟩
  rw [FileSystem.hasPath] at hpath
  cases hlocate : fs.locate [] (filePath root) with
  | error e => simp [hlocate, Except.toOption] at hpath
  | ok trail => exact h trail hlocate

/-- Where there is no root, there is no ignore file that could be spoilt. -/
theorem not_spoilt_of_no_root {fs : FileSystem} {root : Location}
    (h : ∀ trail, fs.locate [] (.ofLocation root) ≠ .ok trail) : ¬Spoilt fs root := by
  refine not_spoilt_of_missing fun next hnext => ?_
  obtain ⟨trail, htrail⟩ := FileSystem.exists_locate_of_append isProper_fileName hnext
  exact h trail htrail

/-! ## Filters -/

/-- There is a filter if the patterns are globs and the ignore file, where it counts, is not
spoilt. -/
theorem exists_ofConfig_iff {fs : FileSystem} {c : ScanConfig} {root : Location} :
    (∃ filter, ofConfig fs c root = .ok filter) ↔
      (∀ pattern ∈ c.ignorePatterns, IsGlob pattern) ∧
        (c.gitignore = true → ¬Spoilt fs root) := by
  simp only [ofConfig_eq_ok, IsGlob, ← exists_readGlobs_iff, ← exists_readGitignore_iff]
  cases c.gitignore <;> simp

/-- If there is no filter, a pattern is to blame, and else the ignore file. -/
theorem ofConfig_eq_error {fs : FileSystem} {c : ScanConfig} {root : Location} {e : ConfigError}
    (h : ofConfig fs c root = .error e) :
    ((∃ pattern ∈ c.ignorePatterns, ¬IsGlob pattern) ∧ ∃ pattern fault, e = .glob pattern fault) ∨
      (∀ pattern ∈ c.ignorePatterns, IsGlob pattern) ∧
        ∃ file faults, e = .gitignore file faults := by
  rw [ofConfig] at h
  -- The patterns are read first, so the ignore file counts only behind them.
  cases hglobs : readGlobs c.ignorePatterns with
  | error e' =>
    obtain rfl : e' = e := by simpa [hglobs, bind, Except.bind] using h
    refine .inl ⟨?_, readGlobs_eq_error hglobs⟩
    by_contra hall
    push Not at hall
    obtain ⟨globs, hok⟩ := exists_readGlobs_iff.2 hall
    simp [hglobs] at hok
  | ok globs =>
    refine .inr ⟨exists_readGlobs_iff.1 ⟨globs, hglobs⟩, ?_⟩
    cases hc : c.gitignore with
    | false => simp [hglobs, hc, bind, Except.bind, pure, Except.pure] at h
    | true =>
      cases hfile : readGitignore fs root with
      | error e' =>
        obtain rfl : e' = e := by simpa [hglobs, hc, hfile, bind, Except.bind] using h
        exact readGitignore_eq_error hfile
      | ok g => simp [hglobs, hc, hfile, bind, Except.bind, pure, Except.pure] at h

/-- A pattern is reported iff one of them is no glob. -/
theorem exists_globError_iff {fs : FileSystem} {c : ScanConfig} {root : Location} :
    (∃ pattern fault, ofConfig fs c root = .error (.glob pattern fault)) ↔
      ∃ pattern ∈ c.ignorePatterns, ¬IsGlob pattern := by
  constructor
  · rintro ⟨pattern, fault, herror⟩
    rcases ofConfig_eq_error herror with ⟨hbad, -⟩ | ⟨-, _, _, heq⟩
    · exact hbad
    · exact absurd heq (by simp)
  · rintro ⟨pattern, hpattern, hbad⟩
    cases hfilter : ofConfig fs c root with
    | ok filter => exact absurd ((exists_ofConfig_iff.1 ⟨filter, hfilter⟩).1 pattern hpattern) hbad
    | error e =>
      rcases ofConfig_eq_error hfilter with ⟨-, pattern', fault, rfl⟩ | ⟨hall, -⟩
      · exact ⟨pattern', fault, rfl⟩
      · exact absurd (hall pattern hpattern) hbad

/-- The ignore file is reported iff it is asked for and spoilt, and all patterns are globs. -/
theorem exists_gitignoreError_iff {fs : FileSystem} {c : ScanConfig} {root : Location} :
    (∃ file faults, ofConfig fs c root = .error (.gitignore file faults)) ↔
      (∀ pattern ∈ c.ignorePatterns, IsGlob pattern) ∧ c.gitignore = true ∧ Spoilt fs root := by
  have hsuccess : (∃ filter, ofConfig fs c root = .ok filter) ↔
      (∀ pattern ∈ c.ignorePatterns, IsGlob pattern) ∧
        (c.gitignore = true → ¬Spoilt fs root) := exists_ofConfig_iff
  constructor
  · rintro ⟨file, faults, herror⟩
    rcases ofConfig_eq_error herror with ⟨-, _, _, heq⟩ | ⟨hall, -⟩
    · exact absurd heq (by simp)
    · refine ⟨hall, ?_⟩
      by_contra hfine
      obtain ⟨filter, hfilter⟩ := hsuccess.2 ⟨hall, fun hc hbad => hfine ⟨hc, hbad⟩⟩
      simp [herror] at hfilter
  · rintro ⟨hall, hc, hbad⟩
    cases hfilter : ofConfig fs c root with
    | ok filter => exact absurd hbad ((hsuccess.1 ⟨filter, hfilter⟩).2 hc)
    | error e =>
      rcases ofConfig_eq_error hfilter with ⟨⟨pattern, hpattern, hnot⟩, -⟩ | ⟨-, file, faults, rfl⟩
      · exact absurd (hall pattern hpattern) hnot
      · exact ⟨file, faults, rfl⟩

end IgnoreFilter

/-! ## Scanners -/

/-- When there is a scanner for some settings, and why there is none otherwise. -/
structure SetupOutcome (fs : FileSystem) (current : Location) (c : ScanConfig) : Prop where
  /-- A pattern that is no glob is an error, whatever the ignore file holds. -/
  glob : (∃ pattern fault, Scanner.ofConfig fs current c = .error (.config (.glob pattern fault))) ↔
    ∃ pattern ∈ c.ignorePatterns, ¬IgnoreFilter.IsGlob pattern
  /-- An ignore file counts only if all patterns are globs. -/
  gitignore : (∃ file faults,
      Scanner.ofConfig fs current c = .error (.config (.gitignore file faults))) ↔
    (∀ pattern ∈ c.ignorePatterns, IgnoreFilter.IsGlob pattern) ∧ c.gitignore = true ∧
      IgnoreFilter.Spoilt fs (c.root.resolve current)
  /-- There are no other errors. -/
  success : (∃ s, Scanner.ofConfig fs current c = .ok s) ↔
    (∀ pattern ∈ c.ignorePatterns, IgnoreFilter.IsGlob pattern) ∧
      (c.gitignore = true → ¬IgnoreFilter.Spoilt fs (c.root.resolve current))
  /-- Neither the root nor the ignore file need be there. -/
  missing : (∀ trail, fs.locate [] (.ofLocation (c.root.resolve current)) ≠ .ok trail) ∨
      (∀ trail, fs.locate [] (IgnoreFilter.filePath (c.root.resolve current)) ≠ .ok trail) →
    (∀ pattern ∈ c.ignorePatterns, IgnoreFilter.IsGlob pattern) →
      ∃ s, Scanner.ofConfig fs current c = .ok s

namespace Scanner

section Setup

variable {fs : FileSystem} {current : Location} {c : ScanConfig}

/-- A path that is not empty stands for a location. -/
theorem resolveRoot_of_ne_nil {p : Path} (h : p.text ≠ []) (current : Location) :
    resolveRoot current p = .ok (p.resolve current) := by
  simp [resolveRoot, h]

/-- A scanner is made of a filter, if the path of the root is not empty. -/
theorem ofConfig_eq_match (hroot : c.root.text ≠ []) :
    ofConfig fs current c = match IgnoreFilter.ofConfig fs c (c.root.resolve current) with
      | .error e => .error (.config e)
      | .ok filter => .ok ⟨c, c.root.resolve current, filter⟩ := by
  rw [ofConfig, resolveRoot_of_ne_nil hroot]
  rfl

/-- There is a scanner iff there is a filter for its root, and it is the one with this filter. -/
theorem ofConfig_eq_ok (hroot : c.root.text ≠ []) {s : Scanner} :
    ofConfig fs current c = .ok s ↔ ∃ filter,
      IgnoreFilter.ofConfig fs c (c.root.resolve current) = .ok filter ∧
        s = ⟨c, c.root.resolve current, filter⟩ := by
  rw [ofConfig_eq_match hroot]
  cases IgnoreFilter.ofConfig fs c (c.root.resolve current) <;> simp [eq_comm]

/-- There is no scanner iff there is no filter for its root, for the same reason. -/
theorem ofConfig_eq_error (hroot : c.root.text ≠ []) {e : ConfigError} :
    ofConfig fs current c = .error (.config e) ↔
      IgnoreFilter.ofConfig fs c (c.root.resolve current) = .error e := by
  rw [ofConfig_eq_match hroot]
  cases IgnoreFilter.ofConfig fs c (c.root.resolve current) <;> simp

/-- When there is a scanner, for every root whose path is not empty. -/
theorem setupOutcome (hroot : c.root.text ≠ []) : SetupOutcome fs current c := by
  have hsuccess : (∃ s, ofConfig fs current c = .ok s) ↔
      (∀ pattern ∈ c.ignorePatterns, IgnoreFilter.IsGlob pattern) ∧
        (c.gitignore = true → ¬IgnoreFilter.Spoilt fs (c.root.resolve current)) := by
    rw [← IgnoreFilter.exists_ofConfig_iff]
    simp only [ofConfig_eq_ok hroot]
    constructor
    · rintro ⟨-, filter, hfilter, -⟩
      exact ⟨filter, hfilter⟩
    · rintro ⟨filter, hfilter⟩
      exact ⟨_, filter, hfilter, rfl⟩
  exact
    { glob := by simpa only [ofConfig_eq_error hroot] using IgnoreFilter.exists_globError_iff
      gitignore := by
        simpa only [ofConfig_eq_error hroot] using IgnoreFilter.exists_gitignoreError_iff
      success := hsuccess
      missing := by
        intro hmissing hall
        refine hsuccess.2 ⟨hall, fun _ => ?_⟩
        rcases hmissing with hnone | hnone
        · exact IgnoreFilter.not_spoilt_of_no_root hnone
        · exact IgnoreFilter.not_spoilt_of_missing hnone }

end Setup

end Scanner

/-! ## Scans -/

namespace Layout

mutual

/-- The scripts among the entries of a layout are those that are placed in it. -/
theorem scripts_entries (d : Nat) :
    ∀ l : Layout, (entries d l).filterMap WalkEntry.script? = l.placed.map (·.2)
  | script source => rfl
  | directory name children => by
    have hchildren := scripts_entriesAll (d + 1) children
    rw [entries, List.filterMap_cons_none rfl, hchildren, placed]

theorem scripts_entriesAll (d : Nat) : ∀ layouts : List Layout,
    (entriesAll d layouts).filterMap WalkEntry.script? = (placedAll layouts).map (·.2)
  | [] => rfl
  | first :: rest => by
    have hfirst := scripts_entries d first
    have hrest := scripts_entriesAll d rest
    rw [entriesAll, List.filterMap_append, hfirst, hrest, placedAll, List.map_append, List.map_map]
    rfl

end

end Layout

/-- Each script has one node: the nodes are those of the scripts, in their order, each where the
path of its script leads to, and no two are at the same place. -/
structure NodesOf (fs : FileSystem) (c : ScanConfig) (root : Location) (scripts : List ScriptFile)
    (nodes : List (List String × FileNode)) : Prop where
  each : List.Forall₂ (fun source node =>
    source.path = placePath root node.1 ∧ node.2 = outlineFile fs c source) scripts nodes
  apart : (nodes.map (·.1)).Nodup

/-- A survey whose layouts are known has a node for each script that it met. -/
theorem Survey.Lays.nodesOf {s : Survey} {fs : FileSystem} {c : ScanConfig} {real : Location}
    {children : List Layout} (h : s.Lays fs c real children) :
    NodesOf fs c s.root (s.walked.entries.filterMap WalkEntry.script?) (s.tree fs c).placed := by
  constructor
  · rw [h.entries, Layout.scripts_entriesAll, h.placed_tree, List.forall₂_map_left_iff,
      List.forall₂_map_right_iff, List.forall₂_same]
    intro p hp
    rw [Layout.placeRead_fst, Layout.placeRead_snd, placePath_map_ofList]
    exact ⟨(h.isAt p hp).path, rfl⟩
  · -- Different locations have different names, also as texts.
    have hnames : Function.Injective fun names : List Name => names.map String.ofList :=
      List.map_injective_iff.2 fun _ _ heq => String.ofList_injective heq
    have hfst : ((Layout.placedAll children).map (Layout.placeRead (outlineFile fs c))).map (·.1)
        = ((Layout.placedAll children).map (·.1)).map fun names => names.map String.ofList := by
      simp only [List.map_map, Function.comp_def, Layout.placeRead_fst]
    rw [h.placed_tree, hfst]
    exact h.nodup.map hnames

/-- Is it a directory, whether or not it may be opened? -/
def FileTree.IsDirectory : FileTree → Prop
  | .directory _ | .sealedDirectory => True
  | _ => False

/-- When a scanner gives a map, and why it gives none otherwise. -/
structure Scanner.Outcome (s : Scanner) (fs : FileSystem) (metadata : ScanMetadata) : Prop where
  /-- Nothing is found at the root, or a directory that may not be opened. -/
  file : (∃ e, s.scan fs metadata = .error (.file e)) ↔
    (∀ trail, fs.locate [] s.rootPath ≠ .ok trail) ∨
      ∃ trail, fs.locate [] s.rootPath = .ok trail ∧ fs.node trail = .sealedDirectory
  /-- Something else than a directory is found. -/
  notDirectory : s.scan fs metadata = .error (.notDirectory s.rootPath) ↔
    ∃ trail, fs.locate [] s.rootPath = .ok trail ∧ ¬(fs.node trail).IsDirectory
  /-- Nothing else is an error, whatever there is below the root. -/
  success : (∃ map, s.scan fs metadata = .ok map) ↔
    ∃ trail entries, fs.locate [] s.rootPath = .ok trail ∧ fs.node trail = .directory entries
  /-- Each script that the walk found has one node. -/
  nodes : ∀ map, s.scan fs metadata = .ok map →
    NodesOf fs s.config s.root ((s.walk fs).entries.filterMap WalkEntry.script?) map.tree.placed

namespace Scanner

/-- What is at the root decides whether there is a map. -/
theorem scan_cases (s : Scanner) (fs : FileSystem) (metadata : ScanMetadata) :
    (∃ e, fs.locate [] s.rootPath = .error e ∧ s.scan fs metadata = .error (.file e)) ∨
    ∃ trail, fs.locate [] s.rootPath = .ok trail ∧
      ((fs.node trail = .sealedDirectory ∧
          s.scan fs metadata = .error (.file .permissionDenied)) ∨
        (¬(fs.node trail).IsDirectory ∧
          s.scan fs metadata = .error (.notDirectory s.rootPath)) ∨
        ∃ entries, fs.node trail = .directory entries ∧ s.scan fs metadata
          = .ok (Survey.toMap ⟨s.root, s.walk fs⟩ fs s.config metadata)) := by
  cases hlocate : fs.locate [] s.rootPath with
  | error e => exact .inl ⟨e, rfl, by simp only [scan, hlocate]⟩
  | ok trail =>
    refine .inr ⟨trail, rfl, ?_⟩
    cases hnode : fs.node trail with
    | directory entries =>
      refine .inr (.inr ⟨entries, rfl, ?_⟩)
      simp only [scan, hlocate, hnode]
      rfl
    | sealedDirectory => exact .inl ⟨rfl, by simp only [scan, hlocate, hnode]⟩
    | _ => exact .inr (.inl ⟨id, by simp only [scan, hlocate, hnode]⟩)

/-- A scan has a node for each script that the walk met. -/
theorem nodes_of_scan {fs : FileSystem} (hfs : fs.WellFormed) {current : Location} {c : ScanConfig}
    {s : Scanner} (hroot : c.root.text ≠ []) (h : ofConfig fs current c = .ok s)
    {metadata : ScanMetadata} {map : ProjectMap} (hscan : s.scan fs metadata = .ok map) :
    NodesOf fs s.config s.root ((s.walk fs).entries.filterMap WalkEntry.script?)
      map.tree.placed := by
  obtain ⟨filter, hfilter, rfl⟩ := (ofConfig_eq_ok hroot).1 h
  have hresolve := resolveRoot_of_ne_nil hroot current
  rcases scan_cases ⟨c, c.root.resolve current, filter⟩ fs metadata with ⟨e, -, herror⟩ |
    ⟨trail, hlocate, ⟨-, herror⟩ | ⟨-, herror⟩ | ⟨entries, hnode, hmap⟩⟩
  · simp [hscan] at herror
  · simp [hscan] at herror
  · simp [hscan] at herror
  -- Only a directory gives a map, and its survey knows where each script is.
  · have hsurvey := surveyProject_of_directory hresolve hfilter hlocate hnode
    obtain ⟨trail', children, -, hlays⟩ := Survey.exists_lays hfs hsurvey
    obtain rfl := Except.ok.inj (hscan.symm.trans hmap)
    rw [Survey.tree_toMap]
    exact hlays.nodesOf

/-- How a scan ends is decided by what is at its root. -/
theorem outcome {fs : FileSystem} (hfs : fs.WellFormed) {current : Location} {c : ScanConfig}
    {s : Scanner} (hroot : c.root.text ≠ []) (h : ofConfig fs current c = .ok s)
    (metadata : ScanMetadata) : s.Outcome fs metadata := by
  rcases s.scan_cases fs metadata with ⟨e, hlocate, hscan⟩ |
    ⟨trail, hlocate, ⟨hnode, hscan⟩ | ⟨hnode, hscan⟩ | ⟨entries, hnode, hscan⟩⟩
  · constructor <;> simp [hlocate, hscan]
  · constructor <;> simp [hlocate, hscan, hnode, FileTree.IsDirectory]
  · have hsealed : fs.node trail ≠ .sealedDirectory := fun heq => hnode (heq ▸ trivial)
    have hlisted : ∀ entries, fs.node trail ≠ .directory entries := fun _ heq =>
      hnode (heq ▸ trivial)
    constructor <;> simp [hlocate, hscan, hnode, hsealed, hlisted]
  · obtain ⟨map, hmap⟩ : ∃ map, s.scan fs metadata = .ok map := ⟨_, hscan⟩
    exact
      { file := by simp [hlocate, hmap, hnode]
        notDirectory := by simp [hlocate, hmap, hnode, FileTree.IsDirectory]
        success := by simp [hlocate, hmap, hnode]
        nodes := fun _ hsome => nodes_of_scan hfs hroot h hsome }

end Scanner

/-- Settings with the path of a root can be used unless a pattern is no glob, or the ignore file of
the root counts and is spoilt; and then a scan gives a map unless the root is no directory. -/
theorem scanner_outcomes {fs : FileSystem} (hfs : fs.WellFormed) (current : Location)
    {c : ScanConfig} (hroot : c.root.text ≠ []) :
    SetupOutcome fs current c ∧
      ∀ s, Scanner.ofConfig fs current c = .ok s →
        s.config = c ∧ s.root = c.root.resolve current ∧ ∀ metadata, s.Outcome fs metadata := by
  refine ⟨Scanner.setupOutcome hroot, fun s hs => ?_⟩
  have houtcome := fun metadata => Scanner.outcome hfs hroot hs metadata
  obtain ⟨filter, -, rfl⟩ := (Scanner.ofConfig_eq_ok hroot).1 hs
  exact ⟨rfl, rfl, houtcome⟩

/-- A project whose ignore file is no text. -/
def spoiltProject : FileSystem :=
  { entries := [(['p'], .directory
      [(IgnoreFilter.fileName, .file [0xff]), (['a', '.', 'j', 's'], .file [])])] }

theorem spoiltProject_wellFormed : spoiltProject.WellFormed := by
  simp only [FileSystem.WellFormed, spoiltProject, FileTree.WellFormed, FileTree.EntriesWellFormed]
  decide

/-- An ignore file that is no text is an error if it counts, but not if a pattern is wrong as well,
and not if it does not count: then the script has its node. A script is no root. -/
theorem scanner_outcomes_spoiltProject :
    (∃ file faults, Scanner.ofConfig spoiltProject [] { readingSettings with gitignore := true }
      = .error (.config (.gitignore file faults))) ∧
    (∃ pattern fault, Scanner.ofConfig spoiltProject []
        { readingSettings with gitignore := true, ignorePatterns := ["["] }
      = .error (.config (.glob pattern fault))) ∧
    (∃ s, Scanner.ofConfig spoiltProject [] strictSettings = .ok s ∧
      ∃ map, s.scan spoiltProject {} = .ok map ∧ map.tree.placed.length = 1) ∧
    ∃ s, Scanner.ofConfig spoiltProject [] { strictSettings with root := ⟨"/p/a.js".toList⟩ }
        = .ok s ∧
      s.scan spoiltProject {} = .error (.notDirectory s.rootPath) := by
  have hspoilt : IgnoreFilter.Spoilt spoiltProject [['p']] := by
    have hbytes : decodeStrict? [0xff] = none := rfl
    refine ⟨by decide, fun bytes hread husable => ?_⟩
    obtain rfl : [0xff] = bytes := Except.ok.inj hread
    obtain ⟨text, htext⟩ := husable.isText
    simp [hbytes] at htext
  have hpattern : ¬IgnoreFilter.IsGlob "[" := by
    have hread : Glob.read IgnoreFilter.rules "[".toList = .error .unclosedClass := rfl
    rintro ⟨glob, hglob⟩
    exact absurd (hread.symm.trans hglob) (by simp)
  have hfilter : ∃ s, Scanner.ofConfig spoiltProject [] strictSettings = .ok s ∧
      ((s.walk spoiltProject).entries.filterMap WalkEntry.script?).length = 1 := ⟨_, rfl, by cbv⟩
  have hwell := spoiltProject_wellFormed
  refine ⟨?_, ?_, ?_, ?_⟩
  · obtain ⟨hsetup, -⟩ := scanner_outcomes hwell []
      (c := { readingSettings with gitignore := true }) (by decide)
    exact hsetup.gitignore.2 ⟨by simp [readingSettings], rfl, hspoilt⟩
  · obtain ⟨hsetup, -⟩ := scanner_outcomes hwell []
      (c := { readingSettings with gitignore := true, ignorePatterns := ["["] }) (by decide)
    exact hsetup.glob.2 ⟨"[", by simp, hpattern⟩
  · obtain ⟨s, hs, hscripts⟩ := hfilter
    obtain ⟨-, hscans⟩ := scanner_outcomes hwell [] (c := strictSettings) (by decide)
    obtain ⟨-, hroot, houtcome⟩ := hscans s hs
    have hlocate : ∃ trail entries, spoiltProject.locate [] s.rootPath = .ok trail ∧
        spoiltProject.node trail = .directory entries := by
      rw [Scanner.rootPath, hroot]
      exact ⟨_, _, rfl, rfl⟩
    obtain ⟨map, hmap⟩ := (houtcome {}).success.2 hlocate
    have hlength := ((houtcome {}).nodes map hmap).each.length_eq
    exact ⟨s, hs, map, hmap, by rw [← hlength, hscripts]⟩
  · obtain ⟨hsetup, hscans⟩ := scanner_outcomes hwell []
      (c := { strictSettings with root := ⟨"/p/a.js".toList⟩ }) (by decide)
    obtain ⟨s, hs⟩ := hsetup.success.2 ⟨by simp [strictSettings], by simp [strictSettings]⟩
    obtain ⟨-, hroot, houtcome⟩ := hscans s hs
    refine ⟨s, hs, (houtcome {}).notDirectory.2 ?_⟩
    rw [Scanner.rootPath, hroot]
    exact ⟨_, rfl, id⟩

end CodeAtlas
