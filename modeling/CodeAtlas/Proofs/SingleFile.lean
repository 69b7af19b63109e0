import CodeAtlas.Proofs.TwoScans

/-!
# A file of a project and the file on its own

A file that a scan of a project has read is given the same node if it is read on its own.

- `FileSystem.read_ofLocation`: the path of a location does not depend on the current directory.
- `scanFile_of_isAt`: the node of a script on its own.
- `scanFile_of_scanProject`: it is that of the script in its project.
-/

namespace CodeAtlas

namespace FileSystem

variable {fs : FileSystem}

/-- Where the path of a location leads does not depend on the current directory. -/
theorem locate_ofLocation {l : Location} {trail : Trail}
    (h : fs.locate [] (.ofLocation l) = .ok trail) (current : Trail) :
    fs.locate current (.ofLocation l) = .ok trail := by
  have hzero := zero_not_mem_of_locate h
  rw [locate_eq_ok_iff, find_ofLocation hzero] at h ⊢
  exact h

/-- The bytes of a file at a location are read from everywhere. -/
theorem read_ofLocation {l : Location} {trail : Trail} {bytes : Bytes}
    (h : fs.locate [] (.ofLocation l) = .ok trail) (hnode : fs.node trail = .file bytes)
    (current : Trail) : fs.read current (.ofLocation l) = .ok bytes := by
  simp [read, locate_ofLocation h current, hnode, bind, Except.bind]

end FileSystem

/-- The language of a script can be told by its path. -/
theorem ScriptFile.IsAt.ofPath?_path {fs : FileSystem} {l : Location} {source : ScriptFile}
    (hat : source.IsAt fs l) : Language.ofPath? source.path = some source.language := by
  obtain ⟨around, hlast⟩ := hat.name
  rw [hat.path, hlast, Language.ofPath?_ofLocation_append around hat.proper,
    Language.ofFileName?_eq_some]
  exact hat.language

/-- The node of a script on its own, which must not be sealed. -/
theorem scanFile_of_isAt {fs : FileSystem} {l : Location} {source : ScriptFile}
    (hat : source.IsAt fs l) {trail : Trail} {bytes : Bytes}
    (hlocate : fs.locate [] source.path = .ok trail) (hnode : fs.node trail = .file bytes)
    (current : Trail) (c : ScanConfig) :
    scanFile fs current c source.path
      = .ok ⟨String.ofList source.name, (outlineBytes c source.language bytes).1, source.language,
          (outlineBytes c source.language bytes).2⟩ := by
  obtain ⟨around, hlast⟩ := hat.name
  have hpath : source.path = .ofLocation (around ++ [source.name]) := by rw [hat.path, hlast]
  have hlanguage := hat.ofPath?_path
  have hname : lastName source.path = String.ofList source.name := by
    rw [lastName, hpath, Path.fileName?_ofLocation_append around hat.proper, Option.getD_some]
  have hread : fs.read current source.path = .ok bytes := by
    rw [hpath] at hlocate ⊢
    exact FileSystem.read_ofLocation hlocate hnode current
  simp only [scanFile, hlanguage, hread, hname]

/-- A file of a project that was read is given the same node on its own, whatever the current
directory is. -/
theorem scanFile_of_scanProject {fs : FileSystem} (hfs : fs.WellFormed) {current : Location}
    {c : ScanConfig} {metadata : ScanMetadata} {map : ProjectMap}
    (h : scanProject fs current c metadata = .ok map) {names : List String} {f : FileNode}
    (hf : (names, f) ∈ map.tree.placed)
    (hstatus : f.status = .parsed ∨ f.status = .recovered ∨ f.status = .unparsable)
    (here : Trail) :
    scanFile fs here c (placePath (c.root.resolve current) names) = .ok f := by
  obtain ⟨s, hs, rfl⟩ := scanProject_eq_ok h
  have hroot : s.root = c.root.resolve current := (surveyProject_eq_ok hfs hs).1
  obtain ⟨trail, children, -, hlays⟩ := Survey.exists_lays hfs hs
  rw [Survey.tree_toMap, hlays.placed_tree, List.mem_map] at hf
  obtain ⟨p, hp, hpf⟩ := hf
  obtain ⟨rfl, rfl⟩ := Prod.mk.inj hpf
  have hat := hlays.isAt p hp
  obtain ⟨found, hlocate, -⟩ := hat.found
  have houtline := readScript_eq_outline hlocate c
  -- The script was read in the project, and what was read there is read on its own.
  rcases (fs.node found).outline_read_cases c p.2.language with hlarge | hsealed |
    ⟨bytes, hnode, hbytes⟩
  · simp [status_outlineFile, houtline, hlarge] at hstatus
  · simp [status_outlineFile, houtline, hsealed] at hstatus
  · rw [← hroot, placePath_map_ofList, ← hat.path, scanFile_of_isAt hat hlocate hnode,
      outlineFile_eq, houtline, hbytes]

def linkedScript : ScriptFile :=
  ⟨['b', '.', 't', 's'], ⟨['/', 'p', '/', 'l', '/', 'b', '.', 't', 's']⟩, .typeScript⟩

def smallLayouts : List Layout :=
  [.script ⟨['a', '.', 'j', 's'], ⟨['/', 'p', '/', 'a', '.', 'j', 's']⟩, .javaScript⟩,
    .directory ['l'] [.script linkedScript],
    .directory ['s', 'r', 'c']
      [.script { linkedScript with path := ⟨['/', 'p', '/', 's', 'r', 'c', '/', 'b', '.', 't', 's']⟩ }]]

/-- The script behind the link is given its node of the project. -/
theorem scanFile_of_scanProject_smallProject :
    smallProject.WellFormed ∧ ∃ map f, scanProject smallProject [] readingSettings {} = .ok map ∧
      (["l", "b.ts"], f) ∈ map.tree.placed ∧
      (f.status = .parsed ∨ f.status = .recovered ∨ f.status = .unparsable) ∧
      scanFile smallProject [] readingSettings linkedScript.path = .ok f := by
  have hsurvey : ∃ s, surveyProject smallProject [] readingSettings = .ok s ∧
      s.walked.entries = Layout.entriesAll 1 smallLayouts := ⟨_, rfl, by cbv⟩
  obtain ⟨s, hs, hentries⟩ := hsurvey
  have hscan := scanProject_of_survey hs {}
  have hplaced : (["l", "b.ts"], outlineFile smallProject readingSettings linkedScript)
      ∈ (s.toMap smallProject readingSettings {}).tree.placed := by
    rw [Survey.tree_toMap, s.tree_eq_projectTree hentries, projectTree, TreeNode.placed,
      Layout.placedAll_fillAll fun _ => rfl, List.mem_map]
    refine ⟨(["l".toList, "b.ts".toList], linkedScript), ?_, rfl⟩
    simp [smallLayouts, Layout.placedAll, Layout.placed, Layout.name, linkedScript]
  have hlocate : ∃ trail, smallProject.locate [] linkedScript.path = .ok trail ∧
      smallProject.node trail = .file [0x3b] := ⟨_, rfl, rfl⟩
  obtain ⟨trail, hlocate, hnode⟩ := hlocate
  have hstatus := outlineFile_status (c := readingSettings) hlocate hnode (by decide)
  exact ⟨smallProject_wellFormed, _, _, hscan, hplaced, hstatus,
    scanFile_of_scanProject smallProject_wellFormed hscan hplaced hstatus []⟩

end CodeAtlas
