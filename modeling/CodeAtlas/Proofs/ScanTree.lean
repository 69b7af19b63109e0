import Mathlib.Data.List.Permutation
import CodeAtlas.Proofs.WalkListing
import CodeAtlas.Scan.Scanner

/-!
# The tree of a scan

A scan is a walk, a reading of the scripts in the order of the walk, and an assembly. Together they
give the tree that the rules of a listing describe.

- `scanProject`: a scan with some settings.
- `scanProject_eq_ok`: what a scan that succeeds has found.
- `Depicts`: the tree and the number of errors that the rules give for a root.
- `scanProject_depicts`: a scan gives this tree, and no other tree is described.
-/

namespace CodeAtlas

def scanProject (fs : FileSystem) (current : Location) (c : ScanConfig) (metadata : ScanMetadata) :
    Except ScanError ProjectMap :=
  match Scanner.ofConfig fs current c with
  | .error e => .error e
  | .ok scanner => scanner.scan fs metadata

def walkerOf (fs : FileSystem) (c : ScanConfig) (filter : IgnoreFilter) : Walker :=
  ⟨fs, filter, c.followSymlinks⟩

def rootVisit (root real : Location) : Visit := ⟨0, root, real, []⟩

def projectTree (fs : FileSystem) (c : ScanConfig) (root : Location) (children : List Layout) :
    TreeNode :=
  .directory (lastName (.ofLocation root)) (Layout.fillAll (outlineFile fs c) children)

/-- The tree and the number of errors that the rules give for a root, which is not passed over
itself. -/
def Depicts (fs : FileSystem) (c : ScanConfig) (root : Location) (filter : IgnoreFilter)
    (tree : TreeNode) (errors : Nat) : Prop :=
  ∃ (trail : Trail) (entries : List (Name × FileTree)) (children : List Layout),
    fs.locate [] (.ofLocation root) = .ok trail ∧ fs.node trail = .directory entries ∧
      ListsEntries (walkerOf fs c filter) (rootVisit root trail.location) entries children errors ∧
      tree = projectTree fs c root children

/-! ## Surveys -/

/-- What a scan knows before it reads a script: its root, and what the walk found. -/
structure Survey where
  root : Location
  walked : Walked

namespace Survey

def tree (s : Survey) (fs : FileSystem) (c : ScanConfig) : TreeNode :=
  assemble (lastName (.ofLocation s.root)) s.walked.entries
    ((s.walked.entries.filterMap WalkEntry.script?).map (outlineFile fs c))

def toMap (s : Survey) (fs : FileSystem) (c : ScanConfig) (metadata : ScanMetadata) : ProjectMap :=
  ⟨(Path.ofLocation s.root).toString, s.tree fs c,
    { ScanStats.ofTree (s.tree fs c) with walkErrors := s.walked.errors }, metadata⟩

end Survey

/-- A walk below a root, which must be a directory that may be listed. -/
def surveyRoot (w : Walker) (root : Location) : Except ScanError Survey :=
  match w.files.locate [] (.ofLocation root) with
  | .error e => .error (.file e)
  | .ok trail =>
    match w.files.node trail with
    | .directory _ => .ok ⟨root, w.walk root⟩
    | .sealedDirectory => .error (.file .permissionDenied)
    | _ => .error (.notDirectory (.ofLocation root))

/-- A scan up to where it reads the scripts. -/
def surveyProject (fs : FileSystem) (current : Location) (c : ScanConfig) :
    Except ScanError Survey :=
  match resolveRoot current c.root with
  | .error e => .error e
  | .ok root =>
    match IgnoreFilter.ofConfig fs c root with
    | .error e => .error (.config e)
    | .ok filter => surveyRoot (walkerOf fs c filter) root

/-- The root of a scan is what its path stands for. -/
theorem resolveRoot_eq_ok {current : Location} {p : Path} {root : Location}
    (h : resolveRoot current p = .ok root) : root = p.resolve current := by
  rw [resolveRoot] at h
  split at h
  · simp at h
  · exact (Except.ok.inj h).symm

/-- A scan is a survey and then a reading of the scripts. -/
theorem scanProject_eq_map (fs : FileSystem) (current : Location) (c : ScanConfig)
    (metadata : ScanMetadata) :
    scanProject fs current c metadata
      = (surveyProject fs current c).map fun s => s.toMap fs c metadata := by
  rw [scanProject, surveyProject, Scanner.ofConfig]
  cases hroot : resolveRoot current c.root with
  | error e => rfl
  | ok root =>
    simp only [bind, Except.bind]
    cases hfilter : IgnoreFilter.ofConfig fs c root with
    | error e => rfl
    | ok filter =>
      simp only [Scanner.scan, surveyRoot]
      have hpath : (Scanner.mk c root filter).rootPath = .ofLocation root := rfl
      have hfiles : (walkerOf fs c filter).files = fs := rfl
      rw [hpath, hfiles]
      cases hlocate : fs.locate [] (.ofLocation root) with
      | error e => rfl
      | ok trail =>
        cases hnode : fs.node trail with
        | directory entries =>
          simp only [hnode, Except.map]
          rfl
        | _ => simp [hnode, Except.map]

/-- A root that was surveyed is a directory that may be listed. -/
theorem surveyRoot_eq_ok {w : Walker} {root : Location} {s : Survey}
    (h : surveyRoot w root = .ok s) :
    s = ⟨root, w.walk root⟩ ∧ ∃ trail entries,
      w.files.locate [] (.ofLocation root) = .ok trail ∧ w.files.node trail = .directory entries := by
  rw [surveyRoot] at h
  cases hlocate : w.files.locate [] (.ofLocation root) with
  | error e => simp [hlocate] at h
  | ok trail =>
    cases hnode : w.files.node trail with
    | directory entries =>
      simp only [hlocate, hnode, Except.ok.injEq] at h
      exact ⟨h.symm, trail, entries, rfl, hnode⟩
    | _ => simp [hlocate, hnode] at h

/-- A scan gives the map of what the survey found. -/
theorem scanProject_of_survey {fs : FileSystem} {current : Location} {c : ScanConfig} {s : Survey}
    (h : surveyProject fs current c = .ok s) (metadata : ScanMetadata) :
    scanProject fs current c metadata = .ok (s.toMap fs c metadata) := by
  rw [scanProject_eq_map, h]
  rfl

/-- The root of a survey is that of the settings. -/
theorem resolveRoot_of_survey {fs : FileSystem} {current : Location} {c : ScanConfig} {s : Survey}
    (h : surveyProject fs current c = .ok s) : resolveRoot current c.root = .ok s.root := by
  rw [surveyProject] at h
  cases hresolve : resolveRoot current c.root with
  | error e => simp [hresolve] at h
  | ok root =>
    cases hfilter : IgnoreFilter.ofConfig fs c root with
    | error e => simp [hresolve, hfilter] at h
    | ok filter =>
      simp only [hresolve, hfilter] at h
      rw [(surveyRoot_eq_ok h).1]

/-- A survey of a directory succeeds, if there is a filter for it. -/
theorem surveyProject_of_directory {fs : FileSystem} {current : Location} {c : ScanConfig}
    {root : Location} {filter : IgnoreFilter} {trail : Trail} {entries : List (Name × FileTree)}
    (hresolve : resolveRoot current c.root = .ok root)
    (hfilter : IgnoreFilter.ofConfig fs c root = .ok filter)
    (hlocate : fs.locate [] (.ofLocation root) = .ok trail)
    (hnode : fs.node trail = .directory entries) :
    surveyProject fs current c = .ok ⟨root, (walkerOf fs c filter).walk root⟩ := by
  have hfiles : (walkerOf fs c filter).files = fs := rfl
  simp only [surveyProject, hresolve, hfilter, surveyRoot, hfiles, hlocate, hnode]

/-- A survey that succeeds knows what the rules list in its root. -/
theorem surveyProject_eq_ok {fs : FileSystem} (hfs : fs.WellFormed) {current : Location}
    {c : ScanConfig} {s : Survey} (h : surveyProject fs current c = .ok s) :
    s.root = c.root.resolve current ∧ ∃ filter, IgnoreFilter.ofConfig fs c s.root = .ok filter ∧
      ∃ (trail : Trail) (entries : List (Name × FileTree)) (children : List Layout),
        fs.locate [] (.ofLocation s.root) = .ok trail ∧ fs.node trail = .directory entries ∧
        ListsEntries (walkerOf fs c filter) (rootVisit s.root trail.location) entries children
          s.walked.errors ∧
        s.walked.entries = Layout.entriesAll 1 children := by
  rw [surveyProject] at h
  cases hresolve : resolveRoot current c.root with
  | error e => simp [hresolve] at h
  | ok root =>
    cases hfilter : IgnoreFilter.ofConfig fs c root with
    | error e => simp [hresolve, hfilter] at h
    | ok filter =>
      simp only [hresolve, hfilter] at h
      obtain ⟨rfl, trail, entries, hlocate, hnode⟩ := surveyRoot_eq_ok h
      obtain ⟨children, hlists, hentries⟩ :=
        Walker.walk_lists (w := walkerOf fs c filter) hfs hlocate hnode
      exact ⟨resolveRoot_eq_ok hresolve, filter, hfilter, trail, entries, children, hlocate, hnode,
        hlists, hentries⟩

/-- The tree of a survey is that of the layouts that it found. -/
theorem Survey.tree_eq_projectTree {s : Survey} {children : List Layout}
    (h : s.walked.entries = Layout.entriesAll 1 children) (fs : FileSystem) (c : ScanConfig) :
    s.tree fs c = projectTree fs c s.root children := by
  rw [Survey.tree, h, assemble_entriesAll, projectTree]

/-- The tree of a scan is that of the layouts that the survey found. -/
theorem exists_map_of_survey {fs : FileSystem} {current root : Location} {c : ScanConfig}
    {children : List Layout} (h : ∃ s, surveyProject fs current c = .ok s ∧ s.root = root ∧
      s.walked.entries = Layout.entriesAll 1 children) (metadata : ScanMetadata) :
    ∃ map, scanProject fs current c metadata = .ok map ∧
      map.tree = projectTree fs c root children := by
  obtain ⟨s, hsurvey, rfl, hentries⟩ := h
  exact ⟨_, scanProject_of_survey hsurvey metadata, s.tree_eq_projectTree hentries fs c⟩

/-- A map comes from the survey of its root. -/
theorem scanProject_eq_ok {fs : FileSystem} {current : Location} {c : ScanConfig}
    {metadata : ScanMetadata} {map : ProjectMap}
    (h : scanProject fs current c metadata = .ok map) :
    ∃ s, surveyProject fs current c = .ok s ∧ map = s.toMap fs c metadata := by
  rw [scanProject_eq_map] at h
  cases hsurvey : surveyProject fs current c with
  | error e => simp [hsurvey, Except.map] at h
  | ok s => exact ⟨s, rfl, by simpa [hsurvey, Except.map] using h.symm⟩

/-- A scan of a directory succeeds, if there is a filter for it, and its tree is that of what the
rules list. -/
theorem scanProject_of_directory {fs : FileSystem} (hfs : fs.WellFormed) {current : Location}
    {c : ScanConfig} {root : Location} {filter : IgnoreFilter} {trail : Trail}
    {entries : List (Name × FileTree)} (hresolve : resolveRoot current c.root = .ok root)
    (hfilter : IgnoreFilter.ofConfig fs c root = .ok filter)
    (hlocate : fs.locate [] (.ofLocation root) = .ok trail)
    (hnode : fs.node trail = .directory entries) (metadata : ScanMetadata) :
    ∃ children errors map,
      ListsEntries (walkerOf fs c filter) (rootVisit root trail.location) entries children errors ∧
        scanProject fs current c metadata = .ok map ∧ map.tree = projectTree fs c root children ∧
          map.stats = { ScanStats.ofTree map.tree with walkErrors := errors } := by
  have hsurvey := surveyProject_of_directory hresolve hfilter hlocate hnode
  obtain ⟨children, hlists, hentries⟩ :=
    Walker.walk_lists (w := walkerOf fs c filter) hfs hlocate hnode
  exact ⟨children, _, _, hlists, scanProject_of_survey hsurvey metadata,
    Survey.tree_eq_projectTree hentries fs c, rfl⟩

/-! ## The tree by the rules -/

/-- A scan that succeeds gives the tree and the number of errors that the rules describe, and they
describe nothing else. -/
theorem scanProject_depicts {fs : FileSystem} (hfs : fs.WellFormed) {current : Location}
    {c : ScanConfig} {metadata : ScanMetadata} {map : ProjectMap}
    (h : scanProject fs current c metadata = .ok map) :
    ∃ filter, IgnoreFilter.ofConfig fs c (c.root.resolve current) = .ok filter ∧
      ∀ (tree : TreeNode) (errors : Nat),
        Depicts fs c (c.root.resolve current) filter tree errors ↔
          tree = map.tree ∧ errors = map.stats.walkErrors := by
  obtain ⟨s, hsurvey, rfl⟩ := scanProject_eq_ok h
  obtain ⟨hroot, filter, hfilter, trail, entries, children, hlocate, hnode, hlists, hentries⟩ :=
    surveyProject_eq_ok hfs hsurvey
  have htree := s.tree_eq_projectTree hentries fs c
  refine ⟨filter, hroot ▸ hfilter, fun tree errors => ?_⟩
  rw [← hroot]
  constructor
  · rintro ⟨trail', entries', children', hlocate', hnode', hlists', rfl⟩
    obtain rfl : trail = trail' := Except.ok.inj (hlocate.symm.trans hlocate')
    obtain rfl : entries = entries' := FileTree.directory.inj (hnode.symm.trans hnode')
    obtain ⟨rfl, rfl⟩ := hlists.unique hlists'
    exact ⟨htree.symm, rfl⟩
  · rintro ⟨rfl, rfl⟩
    exact ⟨trail, entries, children, hlocate, hnode, hlists, htree⟩

/-- A project with a script, a directory, a link to the directory and a link that leads nowhere. -/
def smallProject : FileSystem :=
  { entries := [(['p'], .directory
      [(['s', 'r', 'c'], .directory [(['b', '.', 't', 's'], .file [0x3b])]),
        (['l'], .link ⟨['s', 'r', 'c']⟩), (['l', 'o', 's', 't'], .link ⟨['x']⟩),
        (['a', '.', 'j', 's'], .file [0x3b])])] }

theorem smallProject_wellFormed : smallProject.WellFormed := by
  simp only [FileSystem.WellFormed, smallProject, FileTree.WellFormed, FileTree.EntriesWellFormed]
  decide

/-- Settings that follow links and admit no script. -/
def strictSettings : ScanConfig :=
  { root := ⟨['/', 'p']⟩, followSymlinks := true, maxFileSize := 0 }

/-- Settings that follow links and admit scripts of the usual sizes. -/
def readingSettings : ScanConfig := { root := ⟨['/', 'p']⟩, followSymlinks := true }

/-- What comes of the small project, if no script is admitted. -/
theorem exists_map_smallProject :
    ∃ map, scanProject smallProject [] strictSettings {} = .ok map ∧
      map.tree = .directory "p" [.file ⟨"a.js", [], .javaScript, .tooLarge⟩,
        .directory "l" [.file ⟨"b.ts", [], .typeScript, .tooLarge⟩],
        .directory "src" [.file ⟨"b.ts", [], .typeScript, .tooLarge⟩]] ∧
      map.stats.walkErrors = 1 := ⟨_, rfl, by cbv, by cbv⟩

/-- The directory is listed twice, and the link that leads nowhere is an error. -/
theorem scanProject_depicts_smallProject :
    ∃ map filter, scanProject smallProject [] strictSettings {} = .ok map ∧
      IgnoreFilter.ofConfig smallProject strictSettings [['p']] = .ok filter ∧
      Depicts smallProject strictSettings [['p']] filter
        (.directory "p" [.file ⟨"a.js", [], .javaScript, .tooLarge⟩,
          .directory "l" [.file ⟨"b.ts", [], .typeScript, .tooLarge⟩],
          .directory "src" [.file ⟨"b.ts", [], .typeScript, .tooLarge⟩]]) 1 := by
  obtain ⟨map, hmap, htree, herrors⟩ := exists_map_smallProject
  obtain ⟨filter, hfilter, hdepicts⟩ := scanProject_depicts smallProject_wellFormed hmap
  exact ⟨map, filter, hmap, hfilter, (hdepicts _ _).2 ⟨htree.symm, herrors.symm⟩⟩

end CodeAtlas
