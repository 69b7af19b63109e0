import CodeAtlas.Proofs.SingleFile

/-!
# Where the limit of size counts

In a project a script with more bytes than the settings allow is listed without symbols. A script on
its own is read whatever its size is, so there the limit does not count.

- `ScriptFile.IsAt.tooLarge_iff`: which scripts of a project are too large.
- `scanFile_congr`: of the settings, a script on its own depends on what is wanted of it.
- `status_ne_tooLarge_of_scanFile`: a script on its own is never too large.
- `sizeLimit_counts`: the limit in a project, and on its own.
-/

namespace CodeAtlas

theorem FileTree.IsFile.exists_size {t : FileTree} (h : t.IsFile) :
    ∃ size, t.size? = some size := by
  cases t with
  | file bytes => exact ⟨_, rfl⟩
  | sealedFile size => exact ⟨_, rfl⟩
  | _ => exact absurd h (by simp [FileTree.IsFile])

namespace ScriptFile.IsAt

variable {fs : FileSystem} {l : Location} {source : ScriptFile}

/-- A script of a project is too large if its file has more bytes than the settings allow, and then
it has no symbols. -/
theorem tooLarge_iff (h : source.IsAt fs l) (c : ScanConfig) :
    ∃ size, fs.fileSize? [] source.path = some size ∧
      ((outlineFile fs c source).status = .tooLarge ↔ c.maxFileSize < size) ∧
      (c.maxFileSize < size → (outlineFile fs c source).symbols = []) := by
  obtain ⟨trail, hlocate, hfile⟩ := h.found
  obtain ⟨size, hsize⟩ := hfile.exists_size
  have hread := readScript_eq_outline hlocate c
  refine ⟨size, (fileSize?_of_locate hlocate).trans hsize, ?_, fun hlarge => ?_⟩
  · rw [status_outlineFile, hread, FileTree.outline_eq_tooLarge_iff]
    simp [hsize]
  · rw [symbols_outlineFile, hread, FileTree.outline_of_tooLarge hsize hlarge]

end ScriptFile.IsAt

/-! ## A script on its own -/

/-- The limit is not among the settings that a script on its own depends on. -/
theorem scanFile_congr {c c' : ScanConfig} (h : c'.outline = c.outline) (fs : FileSystem)
    (here : Trail) (p : Path) : scanFile fs here c' p = scanFile fs here c p := by
  simp only [scanFile, outlineBytes, h]

/-- A script on its own is never too large. -/
theorem status_ne_tooLarge_of_scanFile {fs : FileSystem} {here : Trail} {c : ScanConfig} {p : Path}
    {f : FileNode} (h : scanFile fs here c p = .ok f) : f.status ≠ .tooLarge := by
  obtain ⟨language, bytes, hlanguage, hread⟩ := scanFile_eq_ok h
  obtain ⟨g, hg, -, -, houtlined⟩ := exists_scanFile_of_read hlanguage hread c
  have hsame : f = g := Except.ok.inj (h.symm.trans hg)
  have hstatus := outlineBytes_ne_tooLarge c language bytes
  rw [← houtlined] at hstatus
  exact hsame ▸ hstatus

/-- A script of a project is read on its own unless it may not be opened. -/
theorem ScriptFile.IsAt.scanFile_cases {fs : FileSystem} {l : Location} {source : ScriptFile}
    (h : source.IsAt fs l) (here : Trail) (c : ScanConfig) :
    scanFile fs here c source.path = .error (.file .permissionDenied) ∨
      ∃ f, scanFile fs here c source.path = .ok f := by
  obtain ⟨trail, hlocate, hfile⟩ := h.found
  cases hnode : fs.node trail with
  | file bytes => exact .inr ⟨_, scanFile_of_isAt h hlocate hnode here c⟩
  | sealedFile size =>
    have hread : fs.read here source.path = .error .permissionDenied := by
      rw [h.path] at hlocate ⊢
      simp [FileSystem.read, FileSystem.locate_ofLocation hlocate here, hnode, bind, Except.bind]
    exact .inl (by simp only [scanFile, h.ofPath?_path, hread])
  | _ => exact absurd hfile (by simp [hnode, FileTree.IsFile])

/-! ## Both -/

/-- The nodes of a scan are its scripts, read. -/
theorem Survey.Lays.exists_isAt {s : Survey} {fs : FileSystem} {c : ScanConfig} {real : Location}
    {children : List Layout} (h : s.Lays fs c real children) {p : List String × FileNode}
    (hp : p ∈ (s.tree fs c).placed) :
    ∃ l source, source.IsAt fs l ∧ source.path = placePath s.root p.1 ∧
      p.2 = outlineFile fs c source := by
  rw [h.placed_tree, List.mem_map] at hp
  obtain ⟨q, hq, rfl⟩ := hp
  have hat := h.isAt q hq
  exact ⟨_, q.2, hat, by rw [Layout.placeRead_fst, placePath_map_ofList, hat.path],
    Layout.placeRead_snd _ _⟩

/-- Where the limit counts. In a project the scripts with more bytes are too large and have no
symbols, and no others are. On its own a script is never too large, since the limit does not count
there: it has the symbols of its text if it can be read, whatever its size is. So of a script that
is too large in a project the same is never said on its own. -/
theorem sizeLimit_counts (fs : FileSystem) (c : ScanConfig) :
    (fs.WellFormed → ∀ current metadata map, scanProject fs current c metadata = .ok map →
      ∀ p ∈ map.tree.placed,
        (∃ size, fs.fileSize? [] (placePath (c.root.resolve current) p.1) = some size ∧
          (c.maxFileSize < size → p.2.status = .tooLarge ∧ p.2.symbols = []) ∧
          (size ≤ c.maxFileSize → p.2.status ≠ .tooLarge)) ∧
        ∀ here, scanFile fs here c (placePath (c.root.resolve current) p.1)
            = .error (.file .permissionDenied) ∨
          ∃ f, scanFile fs here c (placePath (c.root.resolve current) p.1) = .ok f ∧
            f.status ≠ .tooLarge) ∧
    ∀ here path,
      (∀ limit, scanFile fs here { c with maxFileSize := limit } path = scanFile fs here c path) ∧
      (∀ f, scanFile fs here c path = .ok f → f.status ≠ .tooLarge) ∧
      ∀ language bytes, Language.ofPath? path = some language → fs.read here path = .ok bytes →
        ∃ f, scanFile fs here c path = .ok f ∧ f.name = lastName path ∧ f.language = language ∧
          (f.symbols, f.status) = outlineBytes c language bytes := by
  refine ⟨?_, fun here path => ⟨fun limit => scanFile_congr rfl fs here path, ?_, ?_⟩⟩
  · intro hfs current metadata map h p hp
    obtain ⟨s, hs, rfl⟩ := scanProject_eq_ok h
    rw [Survey.tree_toMap] at hp
    rw [← (surveyProject_eq_ok hfs hs).1]
    obtain ⟨trail, children, -, hlays⟩ := Survey.exists_lays hfs hs
    obtain ⟨l, source, hat, hpath, hnode⟩ := hlays.exists_isAt hp
    obtain ⟨size, hsize, hstatus, hsymbols⟩ := hat.tooLarge_iff c
    rw [← hpath, hnode]
    refine ⟨⟨size, hsize, fun hlarge => ⟨hstatus.2 hlarge, hsymbols hlarge⟩, fun hsmall => ?_⟩,
      fun here => ?_⟩
    · exact fun hlarge => absurd (hstatus.1 hlarge) (Nat.not_lt.2 hsmall)
    · refine (hat.scanFile_cases here c).imp_right ?_
      rintro ⟨f, hf⟩
      exact ⟨f, hf, status_ne_tooLarge_of_scanFile hf⟩
  · exact fun f h => status_ne_tooLarge_of_scanFile h
  · intro language bytes hlanguage hread
    exact exists_scanFile_of_read hlanguage hread c

def rootScript : Path := ⟨"/p/a.js".toList⟩

theorem read_rootScript : smallProject.read [] rootScript = .ok [0x3b] := rfl

/-- With a limit of no bytes the script is too large in its project, but not on its own. -/
theorem sizeLimit_counts_smallProject :
    smallProject.WellFormed ∧ ∃ map f, scanProject smallProject [] strictSettings {} = .ok map ∧
      (["a.js"], f) ∈ map.tree.placed ∧ f.status = .tooLarge ∧ f.symbols = [] ∧
      Language.ofPath? rootScript = some .javaScript ∧
      smallProject.read [] rootScript = .ok [0x3b] ∧
      ∃ g, scanFile smallProject [] strictSettings rootScript = .ok g ∧ g.status ≠ .tooLarge := by
  obtain ⟨map, hmap, htree, -⟩ := exists_map_smallProject
  have hhead : map.tree.placed.head? = some (["a.js"], ⟨"a.js", [], .javaScript, .tooLarge⟩) := by
    rw [htree]
    rfl
  have hplaced := List.mem_of_head? hhead
  obtain ⟨⟨size, hsize, hlarge, -⟩, -⟩ := (sizeLimit_counts smallProject strictSettings).1
    smallProject_wellFormed [] {} map hmap _ hplaced
  have hone : smallProject.fileSize? [] (placePath (strictSettings.root.resolve []) ["a.js"])
      = some 1 := rfl
  obtain rfl : 1 = size := Option.some.inj (hone.symm.trans hsize)
  obtain ⟨hstatus, hsymbols⟩ := hlarge (by decide)
  obtain ⟨-, hnot, halone⟩ := (sizeLimit_counts smallProject strictSettings).2 [] rootScript
  have hlanguage : Language.ofPath? rootScript = some .javaScript := by decide
  obtain ⟨g, hg, -⟩ := halone _ _ hlanguage read_rootScript
  exact ⟨smallProject_wellFormed, map, _, hmap, hplaced, hstatus, hsymbols, hlanguage,
    read_rootScript, g, hg, hnot g hg⟩

/-- A script on its own with more bytes than the settings allow is not said to be too large. -/
theorem sizeLimit_counts_alone :
    ¬ ∀ fs c here path language bytes, Language.ofPath? path = some language →
      fs.read here path = .ok bytes → ScanConfig.maxFileSize c < bytes.length →
        ∃ f, scanFile fs here c path = .ok f ∧ f.status = .tooLarge ∧ f.symbols = [] := by
  intro hall
  have hlanguage : Language.ofPath? rootScript = some .javaScript := by decide
  obtain ⟨f, hf, hstatus, -⟩ :=
    hall smallProject strictSettings [] rootScript _ _ hlanguage read_rootScript (by decide)
  exact status_ne_tooLarge_of_scanFile hf hstatus

end CodeAtlas
