import CodeAtlas.Proofs.ByteOrderMark
import CodeAtlas.Proofs.Isolation
import CodeAtlas.Proofs.JoinedTables
import CodeAtlas.Proofs.Ladder
import CodeAtlas.Proofs.WrittenPaths

/-!
# Files with a byte order mark in front

If a mark is put in front of the bytes of a file that has none, neither the file on its own nor the
project around it looks different, even if the file is read as an ignore file.

- `FileSystem.SamePlace.blank_eq`: a place in two file systems with one layout.
- `FileSystem.Marked`: file systems of which one has a mark in front of a file.
- `FileSystem.Marked.read_cases`: what is read along a path.
- `FileSystem.Marked.scanFile_eq`: scripts on their own.
- `FileSystem.Marked.scanProject_eq`: scans.
-/

namespace CodeAtlas

/-- Emptying files changes nothing about where they are. -/
theorem FileTree.at?_blank (t : FileTree) (l : Location) :
    t.blank.at? l = (t.at? l).map blank := by
  induction l generalizing t with
  | nil => rfl
  | cons name rest ih =>
    cases t with
    | directory entries =>
      rw [blank, at?_directory_cons, at?_directory_cons, child?_blankEntries]
      cases child? entries name with
      | none => rfl
      | some u => exact ih u
    | _ => rfl

/-- What is read of a tree that is no link, or why it is not read. -/
def FileTree.contents : FileTree → Except FileError Bytes
  | .file bytes => .ok bytes
  | .directory _ => .error .isDirectory
  | _ => .error .permissionDenied

/-- The layout tells why something is no file. -/
theorem FileTree.contents_eq_of_blank {t u : FileTree} (h : t.blank = u.blank) (ht : ¬t.IsFile) :
    t.contents = u.contents := by
  cases t <;> cases u <;> simp_all [blank, contents, IsFile]

namespace FileSystem

variable {fs fs' : FileSystem} {here here' : Trail}

theorem at?_blank (fs : FileSystem) (l : Location) :
    fs.blank.at? l = (fs.at? l).map FileTree.blank :=
  FileTree.at?_blank (.directory fs.entries) l

/-- Reading a path gives the contents of what it leads to. -/
theorem read_eq_contents {trail : Trail} {p : Path} (h : fs.locate here p = .ok trail) :
    fs.read here p = (fs.node trail).contents := by
  cases hnode : fs.node trail <;> simp [read, h, hnode, bind, Except.bind, FileTree.contents]

/-- A place in two file systems with one layout, with the bytes left out. -/
theorem SamePlace.blank_eq (h : SamePlace fs fs' here here') (hblank : fs.blank = fs'.blank) :
    here.blank = here'.blank := by
  induction here generalizing here' with
  | nil =>
    have hnil : here'.map (·.1) = [] := List.reverse_eq_nil_iff.1 h.location
    rw [List.map_eq_nil_iff.1 hnil]
  | cons e here ih =>
    cases here' with
    | nil =>
      have hnil : (e :: here).map (·.1) = [] := List.reverse_eq_nil_iff.1 h.location.symm
      simp at hnil
    | cons e' here' =>
      -- Above the last names the places are the same ones, and what is found there looks the same.
      have habove := ih h.tail
      have hname : e'.1 = e.1 := by
        have hlocation := h.location
        rw [Trail.location_cons, Trail.location_cons] at hlocation
        simpa using congrArg List.getLast? hlocation
      have hat : fs.blank.at? (Trail.location (e :: here)) = some e.2.blank := by
        rw [at?_blank, h.before.at?_location]
        rfl
      have hat' : fs'.blank.at? (Trail.location (e' :: here')) = some e'.2.blank := by
        rw [at?_blank, h.after.at?_location]
        rfl
      rw [h.location, ← hblank, hat] at hat'
      have hnode : e'.2.blank = e.2.blank := (Option.some.inj hat').symm
      simp only [Trail.blank, List.map_cons, hname, hnode, List.cons.injEq, true_and]
      exact habove

/-! ## A mark in front of a file -/

/-- `fs'` is `fs` with a byte order mark in front of the bytes of the file at a location. -/
structure Marked (fs fs' : FileSystem) (l : Location) (bytes : Bytes) : Prop where
  blank : fs.blank = fs'.blank
  elsewhere : fs.SameFilesExcept fs' l
  plain : fs.at? l = some (.file bytes)
  marked : fs'.at? l = some (.file (markBytes ++ bytes))

variable {l : Location} {bytes : Bytes}

/-- Putting a mark in front of a file marks the file system at its location. -/
theorem marked_put (h : fs.at? l = some (.file bytes)) :
    fs.Marked (fs.put l (.file (markBytes ++ bytes))) l bytes where
  blank := blank_put h trivial trivial
  elsewhere := sameFilesExcept_put h trivial _
  plain := h
  marked := (wrote_put (FileTree.admits_of_file h) _).after l List.mem_cons_self

namespace Marked

/-- A path leads to the same bytes as before, unless it leads to the file. -/
theorem read_cases (h : fs.Marked fs' l bytes) (hplace : SamePlace fs fs' here here') (p : Path) :
    fs'.read here' p = fs.read here p ∨
      (fs.read here p = .ok bytes ∧ fs'.read here' p = .ok (markBytes ++ bytes)) := by
  rcases locate_cases_of_blank h.blank (hplace.blank_eq h.blank) p with
    ⟨e, hlocate, hlocate'⟩ | ⟨trail, trail', hlocate, hlocate', hlocation, hnode⟩
  · exact .inl (by simp [read, hlocate, hlocate', bind, Except.bind])
  · have hat := (locate_leads hplace.before hlocate).at?_location
    have hat' := (locate_leads hplace.after hlocate').at?_location
    rw [hlocation] at hat'
    rw [read_eq_contents hlocate, read_eq_contents hlocate']
    by_cases hl : trail.location = l
    · rw [hl] at hat hat'
      have hplain : FileTree.file bytes = fs.node trail := Option.some.inj (h.plain.symm.trans hat)
      have hmarked : FileTree.file (markBytes ++ bytes) = fs'.node trail' :=
        Option.some.inj (h.marked.symm.trans hat')
      rw [← hplain, ← hmarked]
      exact .inr ⟨rfl, rfl⟩
    · by_cases hfile : (fs.node trail).IsFile
      · have hsame := h.elsewhere _ hl _ hfile hat
        exact .inl (congrArg FileTree.contents (Option.some.inj (hat'.symm.trans hsame)))
      · exact .inl (FileTree.contents_eq_of_blank hnode.symm hfile).symm

/-! ## Scripts -/

theorem outlineBytes_markBytes (hbytes : ¬markBytes <+: bytes) (c : ScanConfig)
    (language : Language) :
    outlineBytes c language (markBytes ++ bytes) = outlineBytes c language bytes := by
  rw [outlineBytes, decodeSource_markBytes_of_unmarked hbytes, outlineBytes]

/-- A script on its own is the same as before, or missing for the same reason. -/
theorem scanFile_eq (h : fs.Marked fs' l bytes) (hbytes : ¬markBytes <+: bytes)
    (hplace : SamePlace fs fs' here here') (c : ScanConfig) (p : Path) :
    scanFile fs' here' c p = scanFile fs here c p := by
  cases hlanguage : Language.ofPath? p with
  | none => simp only [scanFile, hlanguage]
  | some language =>
    rcases h.read_cases hplace p with hsame | ⟨hread, hread'⟩
    · simp only [scanFile, hlanguage, hsame]
    · simp only [scanFile, hlanguage, hread, hread', outlineBytes_markBytes hbytes]

/-- A script of a project is the same as before, if it is small enough with the mark as well. -/
theorem outlineFile_eq (h : fs.Marked fs' l bytes) (hbytes : ¬markBytes <+: bytes)
    {c : ScanConfig} (hsize : (markBytes ++ bytes).length ≤ c.maxFileSize) {source : ScriptFile}
    {m : Location} (hat : source.IsAt fs m) :
    outlineFile fs' c source = outlineFile fs c source := by
  obtain ⟨place, t, t', hread, hread'⟩ := readFrom_of_blank h.blank hat
  by_cases hplace : place = l
  · subst hplace
    obtain rfl : .file bytes = t := Option.some.inj (h.plain.symm.trans hread.content)
    obtain rfl : .file (markBytes ++ bytes) = t' :=
      Option.some.inj (h.marked.symm.trans hread'.content)
    have hsmall : bytes.length ≤ c.maxFileSize := by
      rw [List.length_append] at hsize
      omega
    refine outlineFile_congr ?_
    rw [hread'.outline, hread.outline, FileTree.outline_of_small hsize,
      FileTree.outline_of_small hsmall, outlineBytes_markBytes hbytes]
  · exact (hread.outlineFile_eq_of_ne hread' h.elsewhere rfl rfl hplace).symm

/-! ## Scans -/

/-- Even if the file is the ignore file of a root, its rules are the same. -/
theorem ofConfig_eq (h : fs.Marked fs' l bytes) (c : ScanConfig) (root : Location) :
    IgnoreFilter.ofConfig fs c root = IgnoreFilter.ofConfig fs' c root := by
  have hpath : ∀ p, fs'.hasPath [] p = fs.hasPath [] p := by
    intro p
    rw [← hasPath_blank, ← h.blank, hasPath_blank]
  have hrules : IgnoreFilter.readGitignore fs' root = IgnoreFilter.readGitignore fs root := by
    rcases h.read_cases .root (.ofLocation (root ++ [IgnoreFilter.fileName])) with
      hsame | ⟨hread, hread'⟩
    · simp only [IgnoreFilter.readGitignore, hpath, hsame]
    · simp only [IgnoreFilter.readGitignore, hpath, hread, hread', Gitignore.ofBytes_markBytes]
  rw [IgnoreFilter.ofConfig, IgnoreFilter.ofConfig, hrules]

/-- A scan has the same outcome as before. -/
theorem scanProject_eq (hfs : fs.WellFormed) (h : fs.Marked fs' l bytes)
    (hbytes : ¬markBytes <+: bytes) {c : ScanConfig}
    (hsize : (markBytes ++ bytes).length ≤ c.maxFileSize) (current : Location)
    (metadata : ScanMetadata) :
    scanProject fs' current c metadata = scanProject fs current c metadata := by
  have hscope : c.SameScope c := rfl
  have hsurvey : surveyProject fs current c = surveyProject fs' current c :=
    surveyProject_eq_of_blank h.blank hscope (h.ofConfig_eq c _)
  rw [scanProject_eq_map, scanProject_eq_map, ← hsurvey]
  cases hs : surveyProject fs current c with
  | error e => simp only [Except.map]
  | ok s =>
    obtain ⟨trail, children, -, hlays⟩ := Survey.exists_lays hfs hs
    have hfill : Layout.fillAll (outlineFile fs' c) children
        = Layout.fillAll (outlineFile fs c) children :=
      Layout.fillAll_congr children fun p hp => h.outlineFile_eq hbytes hsize (hlays.isAt p hp)
    have htree : s.tree fs' c = s.tree fs c := by
      rw [s.tree_eq_projectTree hlays.entries, s.tree_eq_projectTree hlays.entries, projectTree,
        projectTree, hfill]
    simp only [Except.map, Survey.toMap, htree]

end Marked

end FileSystem

/-- A byte order mark is invisible, and nothing else of a text is altered. In front of bytes that have
no mark it changes nothing, whatever these bytes are. Only one mark is taken away. So a mark in front
of a file without one changes neither the file on its own nor a scan that admits its size. -/
theorem markBytes_invisible :
    (∀ bytes, ¬markBytes <+: bytes → decodeSource (markBytes ++ bytes) = decodeSource bytes ∧
      decodeSource bytes = decodeLossy bytes) ∧
    (∀ bytes, decodeSource (markBytes ++ bytes) = decodeLossy bytes) ∧
    (∀ text : List Char, text.head? ≠ some byteOrderMark → decodeSource (encodeUtf8 text) = text) ∧
    (∀ text, decodeSource (encodeUtf8 (byteOrderMark :: text)) = text) ∧
    ∀ (fs : FileSystem) (l : Location) (bytes : Bytes), fs.at? l = some (.file bytes) →
      ¬markBytes <+: bytes →
        (∀ here here' c p,
          FileSystem.SamePlace fs (fs.put l (.file (markBytes ++ bytes))) here here' →
            scanFile (fs.put l (.file (markBytes ++ bytes))) here' c p = scanFile fs here c p) ∧
        (fs.WellFormed → ∀ current c metadata,
          (markBytes ++ bytes).length ≤ ScanConfig.maxFileSize c →
            scanProject (fs.put l (.file (markBytes ++ bytes))) current c metadata
              = scanProject fs current c metadata) := by
  refine ⟨?_, decodeSource_markBytes, fun text h => decodeSource_encodeUtf8 h, ?_, ?_⟩
  · intro bytes h
    exact ⟨decodeSource_markBytes_of_unmarked h, decodeSource_of_unmarked h⟩
  · intro text
    rw [encodeUtf8_byteOrderMark, decodeSource_markBytes, decodeLossy_encodeUtf8]
  · intro fs l bytes hat hbytes
    have hmarked := FileSystem.marked_put hat
    exact ⟨fun here here' c p hplace => hmarked.scanFile_eq hbytes hplace c p,
      fun hfs current c metadata hsize => hmarked.scanProject_eq hfs hbytes hsize current metadata⟩

/-- The small project with a mark in front of the script at its root. -/
def smallProjectMarked : FileSystem :=
  smallProject.put [['p'], ['a', '.', 'j', 's']] (.file (markBytes ++ [0x3b]))

/-- Neither the script nor the project looks different, and a text keeps a mark that is not in
front. -/
theorem markBytes_invisible_smallProject :
    smallProject.at? [['p'], ['a', '.', 'j', 's']] = some (.file [0x3b]) ∧
    ¬markBytes <+: [0x3b] ∧ smallProject.WellFormed ∧
    decodeSource (encodeUtf8 ['a', byteOrderMark]) = ['a', byteOrderMark] ∧
    scanFile smallProjectMarked [] readingSettings ⟨['/', 'p', '/', 'a', '.', 'j', 's']⟩
      = scanFile smallProject [] readingSettings ⟨['/', 'p', '/', 'a', '.', 'j', 's']⟩ ∧
    scanProject smallProjectMarked [] readingSettings {}
      = scanProject smallProject [] readingSettings {} := by
  obtain ⟨-, -, htext, -, hfile⟩ := markBytes_invisible
  have hat : smallProject.at? [['p'], ['a', '.', 'j', 's']] = some (.file [0x3b]) := rfl
  have hbytes : ¬markBytes <+: [0x3b] := by decide
  obtain ⟨halone, hscan⟩ := hfile smallProject _ _ hat hbytes
  exact ⟨hat, hbytes, smallProject_wellFormed, htext _ (by decide), halone [] [] _ _ .root,
    hscan smallProject_wellFormed [] _ {} (by decide)⟩

/-! ## Several marks -/

/-- The bytes of a comment of a web page that is not closed. -/
def pageComment : Bytes := [0x3c, 0x21, 0x2d, 0x2d]

theorem decodeLossy_pageComment : decodeLossy pageComment = ['<', '!', '-', '-'] := by decide

/-- The parser passes over one mark in front of the comment … -/
theorem hasFatalErrors_markedComment :
    hasFatalErrors (parse Language.tsx.grammar (.ofList [byteOrderMark, '<', '!', '-', '-']))
      = false := by
  rw [Language.grammar, Tsx.grammar_eq_joined]
  decide +kernel

/-- … but after two of them it finds no comment. -/
theorem hasFatalErrors_twiceMarkedComment :
    hasFatalErrors (parse Language.tsx.grammar
      (.ofList [byteOrderMark, byteOrderMark, '<', '!', '-', '-'])) = true := by
  rw [Language.grammar, Tsx.grammar_eq_joined]
  decide +kernel

def twiceMarkedFile : FileSystem :=
  { entries := [(['a', '.', 't', 's', 'x'], .file (markBytes ++ (markBytes ++ pageComment)))] }

/-- A mark in front of a file that begins with marks may be visible: with two marks the file is
parsed, with three it is not. -/
theorem scanFile_twiceMarkedFile :
    ¬ ∀ (fs : FileSystem) (l : Location) (bytes : Bytes), fs.at? l = some (.file bytes) →
      ∀ c p, scanFile (fs.put l (.file (markBytes ++ bytes))) [] c p = scanFile fs [] c p := by
  intro hall
  have hlanguage : Language.ofPath? ⟨['a', '.', 't', 's', 'x']⟩ = some .tsx := by decide
  have hplain : twiceMarkedFile.read [] ⟨['a', '.', 't', 's', 'x']⟩
      = .ok (markBytes ++ (markBytes ++ pageComment)) := rfl
  have hmarked : (twiceMarkedFile.put [['a', '.', 't', 's', 'x']]
        (.file (markBytes ++ (markBytes ++ (markBytes ++ pageComment))))).read []
          ⟨['a', '.', 't', 's', 'x']⟩
      = .ok (markBytes ++ (markBytes ++ (markBytes ++ pageComment))) := rfl
  obtain ⟨f, hf, -, -, hparsed⟩ := exists_scanFile_of_read hlanguage hplain {}
  obtain ⟨g, hg, -, -, hunparsable⟩ := exists_scanFile_of_read hlanguage hmarked {}
  have hsame := hall twiceMarkedFile [['a', '.', 't', 's', 'x']] _ rfl {} ⟨['a', '.', 't', 's', 'x']⟩
  rw [outlineBytes, decodeSource_markBytes, decodeLossy_markBytes, decodeLossy_pageComment,
    extractSymbols_of_own hasFatalErrors_markedComment] at hparsed
  rw [outlineBytes, decodeSource_markBytes, decodeLossy_markBytes, decodeLossy_markBytes,
    decodeLossy_pageComment, extractSymbols_of_neither hasFatalErrors_twiceMarkedComment
      hasFatalErrors_twiceMarkedComment] at hunparsable
  have hfile : g = f := Except.ok.inj (hg.symm.trans (hsame.trans hf))
  have hstatus : FileStatus.unparsable = .parsed :=
    (congrArg Prod.snd hunparsable).symm.trans ((congrArg (·.status) hfile).trans
      (congrArg Prod.snd hparsed))
  exact absurd hstatus (by decide)

end CodeAtlas
