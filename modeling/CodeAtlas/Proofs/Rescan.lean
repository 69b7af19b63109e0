import CodeAtlas.Proofs.Filters
import CodeAtlas.Proofs.IgnoreFile
import CodeAtlas.Proofs.ScriptsOnly
import CodeAtlas.Proofs.TwoScans
import CodeAtlas.Proofs.WrittenPaths

/-!
# A scan after a file was written

A scan that follows no link does not see that a file was written, if none of its names is that of a
script or of the ignore file.

- `FileSystem.WroteUnseen`: a file was written whose path is not that of a script.
- `FileSystem.Unread`: locations where a scan reads nothing.
- `FileSystem.WroteUnseen.ruleFile?_eq`: the ignore file of a root is as before.
- `FileSystem.WroteUnseen.surveyProject_eq`: a scan finds the same scripts.
- `FileSystem.WroteUnseen.scanProject_eq`: a scan gives the same tree and the same figures.
-/

namespace CodeAtlas

namespace FileSystem

/-- `fs'` is `fs` after a file was written under some names. Which directories and scripts there are
is not changed by that. -/
structure WroteUnseen (fs fs' : FileSystem) (names : List Location) (bytes : Bytes) : Prop where
  wrote : fs.Wrote fs' names bytes
  scripts : fs'.scriptsOnly = fs.scriptsOnly
  wellFormed : fs'.WellFormed

/-- At some locations a scan of the directory at another one reads nothing: they are neither those of
scripts below the directory, nor that of its ignore file, if this is asked for. -/
structure Unread (root : Location) (gitignore : Bool) (names : List Location) : Prop where
  noScript : ∀ below name, root ++ below ++ [name] ∈ names → Language.ofFileName? name = none
  noIgnoreFile : gitignore = true → root ++ [IgnoreFilter.fileName] ∉ names

/-- A file that is put where one is admitted is not seen, if it is no script by its name there. -/
theorem wroteUnseen_allNames {fs : FileSystem} (hfs : fs.WellFormed) {above : Location}
    {name : Name} (hadmits : FileTree.Admits fs.entries (above ++ [name])) (hproper : name.IsProper)
    (hscript : Language.ofFileName? name = none) (bytes : Bytes) :
    fs.WroteUnseen (fs.putEach bytes (fs.allNames (above ++ [name])))
      (fs.allNames (above ++ [name])) bytes := by
  have hwell : (fs.put (above ++ [name]) (.file bytes)).WellFormed := hfs.putAt hproper hadmits bytes
  have hothers : ∀ m ∈ fs.otherNames (above ++ [name]),
      ∃ old, (fs.put (above ++ [name]) (.file bytes)).at? m = some (.file old) := by
    intro m hm
    obtain ⟨-, -, old, hold⟩ := mem_otherNames.1 hm
    exact (wrote_put hadmits bytes).at?_file hold
  obtain ⟨hscripts, hlast⟩ := scriptsOnly_putEach bytes hwell hothers
  exact ⟨wrote_allNames hadmits bytes,
    hscripts.trans (scriptsOnly_put hadmits (.inl hscript) bytes), hlast⟩

/-- A name that a scan does not read, with others that it does not read. -/
theorem Unread.cons {root above : Location} {name : Name} {gitignore : Bool}
    {names : List Location} (h : Unread root gitignore names)
    (hscript : Language.ofFileName? name = none) (hignore : name ≠ IgnoreFilter.fileName) :
    Unread root gitignore ((above ++ [name]) :: names) where
  noScript below other hmem := by
    rcases List.mem_cons.1 hmem with heq | hmem
    · obtain ⟨-, hname⟩ := List.append_inj' heq rfl
      rw [List.singleton_inj.1 hname]
      exact hscript
    · exact h.noScript below other hmem
  noIgnoreFile hgitignore hmem := by
    rcases List.mem_cons.1 hmem with heq | hmem
    · obtain ⟨-, hname⟩ := List.append_inj' heq rfl
      exact hignore (List.singleton_inj.1 hname).symm
    · exact h.noIgnoreFile hgitignore hmem

namespace WroteUnseen

variable {fs fs' : FileSystem} {names : List Location} {bytes : Bytes}

/-! ## Directories -/

/-- A directory has the same directories and scripts as before. -/
theorem scriptEntries_eq (h : fs.WroteUnseen fs' names bytes) {here here' : Trail}
    (hplace : SamePlace fs fs' here here') {entries entries' : List (Name × FileTree)}
    (hnode : fs.node here = .directory entries) (hnode' : fs'.node here' = .directory entries') :
    FileTree.scriptEntries entries' = FileTree.scriptEntries entries := by
  have hat := at?_scriptsOnly (hnode ▸ hplace.before.at?_location)
  have hat' := at?_scriptsOnly (hnode' ▸ hplace.after.at?_location)
  rw [h.scripts, hplace.location, hat] at hat'
  exact (FileTree.directory.inj (Option.some.inj hat')).symm

/-- Under the name of an ignore file the same shows as before. -/
theorem surface_ignoreFile (h : fs.WroteUnseen fs' names bytes) {here here' : Trail}
    (hplace : SamePlace fs fs' here here') {entries entries' : List (Name × FileTree)}
    (hnode : fs.node here = .directory entries) (hnode' : fs'.node here' = .directory entries')
    (hunread : here.location ++ [IgnoreFilter.fileName] ∉ names) :
    (FileTree.child? entries' IgnoreFilter.fileName).map FileTree.surface
      = (FileTree.child? entries IgnoreFilter.fileName).map FileTree.surface := by
  rw [← hplace.before.at?_child hnode, ← hplace.after.at?_child hnode', hplace.location]
  exact h.wrote.elsewhere _ hunread

/-! ## The ignore file -/

/-- The ignore file of a root is as before, if it is no link. -/
theorem ruleFile?_eq (h : fs.WroteUnseen fs' names bytes) {root : Location} {here : Trail}
    {entries : List (Name × FileTree)} (hlocate : fs.locate [] (.ofLocation root) = .ok here)
    (hnode : fs.node here = .directory entries)
    (hlink : ¬fs.NamesLink [] (.ofLocation (root ++ [IgnoreFilter.fileName])))
    (hunread : here.location ++ [IgnoreFilter.fileName] ∉ names) :
    IgnoreFilter.ruleFile? fs' root = IgnoreFilter.ruleFile? fs root := by
  obtain ⟨here', hlocate', hplace⟩ := h.wrote.locate .root hlocate
  obtain ⟨entries', hnode'⟩ := h.wrote.node_directory hplace hnode
  have hshows := h.surface_ignoreFile hplace hnode hnode' hunread
  have hsolid : ∀ target, FileTree.child? entries IgnoreFilter.fileName ≠ some (.link target) :=
    fun target hchild => hlink (namesLink_ofLocation IgnoreFilter.isProper_fileName hlocate hnode
      hchild)
  have hsolid' : ∀ target,
      FileTree.child? entries' IgnoreFilter.fileName ≠ some (.link target) := by
    intro target hchild
    rw [hchild, Option.map_some, eq_comm, Option.map_eq_some_iff] at hshows
    obtain ⟨t, ht, hsurface⟩ := hshows
    exact hsolid target (FileTree.surface_eq_link.1 hsurface ▸ ht)
  rw [IgnoreFilter.ruleFile?_of_directory hlocate hnode hsolid,
    IgnoreFilter.ruleFile?_of_directory hlocate' hnode' hsolid']
  -- What is read of an entry shows from outside.
  have hbytes : ∀ o : Option FileTree, o.map FileTree.bytes?
      = (o.map FileTree.surface).map FileTree.bytes? := by
    rintro (- | t)
    · rfl
    · cases t <;> rfl
  rw [hbytes, hshows, ← hbytes]

/-- A filter is as before, if the ignore file is no link wherever it is asked for. -/
theorem ofConfig_eq (h : fs.WroteUnseen fs' names bytes) {c : ScanConfig} {root : Location}
    {here : Trail} {entries : List (Name × FileTree)} {filter : IgnoreFilter}
    (hlocate : fs.locate [] (.ofLocation root) = .ok here)
    (hnode : fs.node here = .directory entries)
    (hlink : c.gitignore = true →
      ¬fs.NamesLink [] (.ofLocation (root ++ [IgnoreFilter.fileName])))
    (hunread : Unread here.location c.gitignore names)
    (hfilter : IgnoreFilter.ofConfig fs c root = .ok filter) :
    IgnoreFilter.ofConfig fs' c root = .ok filter := by
  rw [IgnoreFilter.ofConfig_eq_ok] at hfilter ⊢
  obtain ⟨globs, gitignore, hglobs, hgitignore, rfl⟩ := hfilter
  refine ⟨globs, gitignore, hglobs, ?_, rfl⟩
  by_cases hc : c.gitignore = true
  · rw [if_pos hc, IgnoreFilter.readGitignore_eq_ok] at hgitignore ⊢
    rw [h.ruleFile?_eq hlocate hnode (hlink hc) (hunread.noIgnoreFile hc)]
    exact hgitignore
  · rw [if_neg hc] at hgitignore ⊢
    exact hgitignore

/-! ## Scans -/

/-- A scan finds the same scripts as before. -/
theorem surveyProject_eq (h : fs.WroteUnseen fs' names bytes) (hfs : fs.WellFormed)
    {current : Location} {c : ScanConfig} (hnot : c.followSymlinks = false)
    (hlink : c.gitignore = true →
      ¬fs.NamesLink [] (.ofLocation (c.root.resolve current ++ [IgnoreFilter.fileName])))
    (hunread : ∀ root, fs.place? (.ofLocation (c.root.resolve current)) = some root →
      Unread root c.gitignore names)
    {s : Survey} (hsurvey : surveyProject fs current c = .ok s) :
    surveyProject fs' current c = .ok s := by
  obtain ⟨hroot, filter, hfilter, here, entries, children, hlocate, hnode, hlists, hentries⟩ :=
    surveyProject_eq_ok hfs hsurvey
  obtain ⟨here', hlocate', hplace⟩ := h.wrote.locate .root hlocate
  obtain ⟨entries', hnode'⟩ := h.wrote.node_directory hplace hnode
  have hfilter' := h.ofConfig_eq hlocate hnode (hroot ▸ hlink)
    (hunread _ (hroot ▸ place?_of_locate hlocate)) hfilter
  have hsurvey' :=
    surveyProject_of_directory (resolveRoot_of_survey hsurvey) hfilter' hlocate' hnode'
  obtain ⟨children', hlists', hentries'⟩ :=
    Walker.walk_lists (w := walkerOf fs' c filter) h.wellFormed hlocate' hnode'
  -- Both walks list what they would list among the same scripts.
  have hpruned := hlists.scriptsOnly (w := walkerOf fs c filter) hnot fs
  have hpruned' := ListsEntries.scriptsOnly (w := walkerOf fs' c filter) hnot fs hlists'
  rw [h.scriptEntries_eq hplace hnode hnode', hplace.location] at hpruned'
  obtain ⟨rfl, herrors⟩ := hpruned'.unique hpruned
  have hwalked : (walkerOf fs' c filter).walk s.root = s.walked := calc
    (walkerOf fs' c filter).walk s.root
      = ⟨Layout.entriesAll 1 children', s.walked.errors⟩ := by rw [← hentries', ← herrors]
    _ = s.walked := by rw [← hentries]
  rw [hsurvey', hwalked]

/-- A script is read as before. -/
theorem outlineFile_eq (h : fs.WroteUnseen fs' names bytes) (c : ScanConfig)
    {script : ScriptFile} {here : Trail} (hlocate : fs.locate [] script.path = .ok here)
    (hfile : (fs.node here).IsFile) (hunread : here.location ∉ names) :
    outlineFile fs' c script = outlineFile fs c script := by
  obtain ⟨here', hlocate', hplace⟩ := h.wrote.locate .root hlocate
  have hnotDirectory : ∀ entries, fs.node here ≠ .directory entries := fun entries hnode => by
    rw [hnode] at hfile
    exact hfile
  have hat := h.wrote.at?_of_not_directory hunread hplace.before.at?_location hnotDirectory
  rw [← hplace.location, hplace.after.at?_location] at hat
  have hnode : fs'.node here' = fs.node here := Option.some.inj hat
  rw [CodeAtlas.outlineFile_eq, CodeAtlas.outlineFile_eq, readScript_eq_outline hlocate,
    readScript_eq_outline hlocate', hnode]

/-- The tree of what was found is as before. -/
theorem tree_eq (h : fs.WroteUnseen fs' names bytes) (hfs : fs.WellFormed)
    {current : Location} {c : ScanConfig} (hnot : c.followSymlinks = false)
    (hunread : ∀ root, fs.place? (.ofLocation (c.root.resolve current)) = some root →
      Unread root c.gitignore names)
    {s : Survey} (hsurvey : surveyProject fs current c = .ok s) : s.tree fs' c = s.tree fs c := by
  obtain ⟨trail, children, hroot, hlays⟩ := Survey.exists_lays hfs hsurvey
  rw [Survey.tree_eq_projectTree hlays.entries, Survey.tree_eq_projectTree hlays.entries,
    projectTree, projectTree]
  refine congrArg _ (Layout.fillAll_congr children fun p hp => ?_)
  obtain ⟨here, hlocate, hfile⟩ := (hlays.isAt p hp).found
  refine h.outlineFile_eq c hlocate hfile fun hmem => ?_
  -- Without links the script is where its names lead from the root, and its name is the last one.
  obtain ⟨below, hnames⟩ := hlays.exists_names hp
  have hplace : fs.place? (.ofLocation (c.root.resolve current)) = some trail.location := by
    rw [← resolveRoot_eq_ok (resolveRoot_of_survey hsurvey), place?_of_locate hroot]
  rw [hlays.unlinked hnot p hp here hlocate, hnames, ← List.append_assoc] at hmem
  have hnone := (hunread _ hplace).noScript below p.2.name hmem
  have hlanguage := (hlays.isAt p hp).language
  rw [← Language.ofFileName?_eq_some, hnone] at hlanguage
  simp at hlanguage

/-- A scan gives the same tree and the same figures as before. -/
theorem scanProject_eq (h : fs.WroteUnseen fs' names bytes) (hfs : fs.WellFormed)
    {current : Location} {c : ScanConfig} (hnot : c.followSymlinks = false)
    (hlink : c.gitignore = true →
      ¬fs.NamesLink [] (.ofLocation (c.root.resolve current ++ [IgnoreFilter.fileName])))
    (hunread : ∀ root, fs.place? (.ofLocation (c.root.resolve current)) = some root →
      Unread root c.gitignore names)
    {metadata : ScanMetadata} {map : ProjectMap}
    (hscan : scanProject fs current c metadata = .ok map) (metadata' : ScanMetadata) :
    ∃ map', scanProject fs' current c metadata' = .ok map' ∧ map'.tree = map.tree ∧
      map'.stats = map.stats := by
  obtain ⟨s, hsurvey, rfl⟩ := scanProject_eq_ok hscan
  have hsurvey' := h.surveyProject_eq hfs hnot hlink hunread hsurvey
  have htree := h.tree_eq hfs hnot hunread hsurvey
  refine ⟨s.toMap fs' c metadata', ?_, htree, ?_⟩
  · rw [scanProject_eq_map, hsurvey']
    rfl
  · rw [Survey.toMap, Survey.toMap, htree]

end WroteUnseen

end FileSystem

end CodeAtlas
