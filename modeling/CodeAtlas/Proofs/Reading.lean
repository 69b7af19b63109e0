import CodeAtlas.Proofs.Places
import CodeAtlas.Scan.Scanner

/-!
# How a script is read

What a scan says of a script depends on what is found at its place, on its language and on the
settings.

- `chooseReading_cases`: a text is parsed whether or not errors are forgiven, or it has errors.
- `FileTree.outline`: the symbols of a script by what is found at its place.
- `readScript_eq_outline`: a script of a project is read in this way.
- `FileTree.outline_eq_tooLarge_iff`: which scripts are too large.
- `FileTree.outline_raised`: a limit that is raised concerns only scripts that were too large.
- `exists_scanFile_of_read`: a script on its own is read whatever its size is.
-/

namespace CodeAtlas

/-! ## Texts -/

/-- If a reading is free of errors, it is the one chosen; otherwise nothing or the reading by the
own grammar is. -/
theorem chooseReading_cases (own : FileSymbols) (wide : Unit → Option FileSymbols) :
    (∃ symbols, ∀ lenient, chooseReading lenient own wide = (symbols, .parsed)) ∨
    (∀ lenient, chooseReading lenient own wide
      = if lenient then (own.symbols, .recovered) else ([], .unparsable)) := by
  -- Leniency is asked for only after both readings have failed.
  cases hown : own.hasErrors with
  | false => exact .inl ⟨own.symbols, fun lenient => by simp [chooseReading, hown]⟩
  | true =>
    cases hretry : (wide ()).filter (!·.hasErrors) with
    | none => exact .inr fun lenient => by simp [chooseReading, hown, hretry]
    | some retry => exact .inl ⟨retry.symbols, fun lenient => by simp [chooseReading, hown, hretry]⟩

/-- A text is parsed whatever the settings say of errors, or they decide. -/
theorem outlineBytes_cases (c : ScanConfig) (language : Language) (bytes : Bytes) :
    (∃ symbols, ∀ lenient,
      outlineBytes { c with lenient := lenient } language bytes = (symbols, .parsed)) ∨
    (∀ lenient, outlineBytes { c with lenient := lenient } language bytes
      = if lenient then
          ((fileSymbols language c.lines (.ofList (decodeSource bytes))).symbols, .recovered)
        else ([], .unparsable)) := by
  simp only [outlineBytes, extractSymbols, ScanConfig.outline]
  exact chooseReading_cases (fileSymbols language c.lines (.ofList (decodeSource bytes))) _

/-- A text is neither unreadable nor too large. -/
theorem outlineBytes_status (c : ScanConfig) (language : Language) (bytes : Bytes) :
    (outlineBytes c language bytes).2 = .parsed ∨ (outlineBytes c language bytes).2 = .recovered ∨
      (outlineBytes c language bytes).2 = .unparsable := by
  rw [outlineBytes, extractSymbols]
  rcases chooseReading_cases _ _ with ⟨symbols, h⟩ | h
  · exact .inl (by rw [h])
  · rw [h]
    split
    · exact .inr (.inl rfl)
    · exact .inr (.inr rfl)

/-- A script that has been read is not too large, whatever comes of its text. -/
theorem outlineBytes_ne_tooLarge (c : ScanConfig) (language : Language) (bytes : Bytes) :
    (outlineBytes c language bytes).2 ≠ .tooLarge := by
  rcases outlineBytes_status c language bytes with h | h | h <;> simp [h]

/-! ## Files -/

namespace FileTree

def size? : FileTree → Option Nat
  | file bytes => some bytes.length
  | sealedFile size => some size
  | _ => none

/-- The symbols of a script by what is found at its place, and how they came about. -/
def outline (c : ScanConfig) (language : Language) : FileTree → List Symbol × FileStatus
  | file bytes =>
    if c.maxFileSize < bytes.length then ([], .tooLarge) else outlineBytes c language bytes
  | sealedFile size => if c.maxFileSize < size then ([], .tooLarge) else ([], .unreadable)
  | _ => ([], .unreadable)

/-- Whether errors are forgiven matters only for a file that has some, in which case the symbols are
those of the reading by the own grammar. -/
theorem outline_cases (c : ScanConfig) (language : Language) (t : FileTree) :
    (∃ symbols status, (status = .parsed ∨ status = .unreadable ∨ status = .tooLarge) ∧
      ∀ lenient, t.outline { c with lenient := lenient } language = (symbols, status)) ∨
    (∃ bytes, t = file bytes ∧
      ∀ lenient, t.outline { c with lenient := lenient } language
        = if lenient then
            ((fileSymbols language c.lines (.ofList (decodeSource bytes))).symbols, .recovered)
          else ([], .unparsable)) := by
  cases t with
  | file bytes =>
    by_cases hlarge : c.maxFileSize < bytes.length
    · exact .inl ⟨[], .tooLarge, .inr (.inr rfl), fun lenient => by simp [outline, hlarge]⟩
    · have hread : ∀ lenient, outline { c with lenient := lenient } language (file bytes)
          = outlineBytes { c with lenient := lenient } language bytes := by
        intro lenient
        simp only [outline, hlarge, if_false]
      rcases outlineBytes_cases c language bytes with ⟨symbols, h⟩ | h
      · exact .inl ⟨symbols, .parsed, .inl rfl, fun lenient => (hread lenient).trans (h lenient)⟩
      · exact .inr ⟨bytes, rfl, fun lenient => (hread lenient).trans (h lenient)⟩
  | sealedFile size =>
    by_cases hlarge : c.maxFileSize < size
    · exact .inl ⟨[], .tooLarge, .inr (.inr rfl), fun lenient => by simp [outline, hlarge]⟩
    · exact .inl ⟨[], .unreadable, .inr (.inl rfl), fun lenient => by simp [outline, hlarge]⟩
  | _ => exact .inl ⟨[], .unreadable, .inr (.inl rfl), fun _ => rfl⟩

/-- A script is too large if it has more bytes than the settings allow. -/
theorem outline_eq_tooLarge_iff (c : ScanConfig) (language : Language) (t : FileTree) :
    (t.outline c language).2 = .tooLarge ↔ ∃ size, t.size? = some size ∧ c.maxFileSize < size := by
  cases t with
  | file bytes =>
    have hstatus := outlineBytes_status c language bytes
    by_cases hlarge : c.maxFileSize < bytes.length
    · simp [outline, size?, hlarge]
    · have hne : (outlineBytes c language bytes).2 ≠ .tooLarge := by
        rcases hstatus with h | h | h <;> simp [h]
      simpa [outline, size?, hlarge] using hne
  | sealedFile size =>
    by_cases hlarge : c.maxFileSize < size <;> simp [outline, size?, hlarge]
  | _ => simp [outline, size?]

/-- A file that is larger than the limit has no symbols and is said to be too large. -/
theorem outline_of_tooLarge {c : ScanConfig} {language : Language} {t : FileTree} {size : Nat}
    (hsize : t.size? = some size) (hlarge : c.maxFileSize < size) :
    t.outline c language = ([], .tooLarge) := by
  cases t with
  | file bytes =>
    obtain rfl : bytes.length = size := Option.some.inj hsize
    simp [outline, hlarge]
  | sealedFile n =>
    obtain rfl : n = size := Option.some.inj hsize
    simp [outline, hlarge]
  | _ => simp [size?] at hsize

/-- A file that is not too large is read. -/
theorem outline_of_small {c : ScanConfig} {bytes : Bytes} (h : bytes.length ≤ c.maxFileSize)
    (language : Language) :
    (file bytes).outline c language = outlineBytes c language bytes := by
  rw [outline, if_neg (Nat.not_lt.2 h)]

/-- Of the settings, only what is wanted of an outline and the limit matter. -/
theorem outline_congr {c c' : ScanConfig} (houtline : c'.outline = c.outline)
    (hlimit : c'.maxFileSize = c.maxFileSize) (language : Language) (t : FileTree) :
    t.outline c' language = t.outline c language := by
  cases t with
  | file bytes =>
    simp only [outline, hlimit, outlineBytes, houtline]
  | sealedFile size => simp only [outline, hlimit]
  | _ => rfl

/-- A script that is neither too large nor unreadable is read. -/
theorem outline_read_cases (c : ScanConfig) (language : Language) (t : FileTree) :
    t.outline c language = ([], .tooLarge) ∨ t.outline c language = ([], .unreadable) ∨
      ∃ bytes, t = file bytes ∧ t.outline c language = outlineBytes c language bytes := by
  cases t with
  | file bytes =>
    by_cases hlarge : c.maxFileSize < bytes.length
    · exact .inl (outline_of_tooLarge rfl hlarge)
    · exact .inr (.inr ⟨bytes, rfl, outline_of_small (Nat.not_lt.1 hlarge) language⟩)
  | sealedFile size =>
    by_cases hlarge : c.maxFileSize < size
    · exact .inl (outline_of_tooLarge rfl hlarge)
    · exact .inr (.inl (if_neg hlarge))
  | _ => exact .inr (.inl rfl)

/-- Raising the limit changes nothing for a script that was not too large. -/
theorem outline_raised {c c' : ScanConfig} (houtline : c'.outline = c.outline)
    (hlimit : c.maxFileSize ≤ c'.maxFileSize) {language : Language} {t : FileTree}
    (h : (t.outline c language).2 ≠ .tooLarge) : t.outline c' language = t.outline c language := by
  rw [ne_eq, outline_eq_tooLarge_iff] at h
  cases t with
  | file bytes =>
    have hsmall : ¬c.maxFileSize < bytes.length := fun hlarge => h ⟨_, rfl, hlarge⟩
    have hstill : ¬c'.maxFileSize < bytes.length := by omega
    simp only [outline, hsmall, hstill, if_false, outlineBytes, houtline]
  | sealedFile size =>
    have hsmall : ¬c.maxFileSize < size := fun hlarge => h ⟨_, rfl, hlarge⟩
    have hstill : ¬c'.maxFileSize < size := by omega
    simp only [outline, hsmall, hstill, if_false]
  | _ => rfl

end FileTree

/-- A script of a project is read as what is found at its place. -/
theorem readScript_eq_outline {fs : FileSystem} {s : ScriptFile} {trail : Trail}
    (h : fs.locate [] s.path = .ok trail) (c : ScanConfig) :
    readScript fs c s = (fs.node trail).outline c s.language := by
  cases hnode : fs.node trail with
  | file bytes =>
    by_cases hlarge : c.maxFileSize < bytes.length <;>
      simp [readScript, FileSystem.fileSize?, FileSystem.read, h, hnode, Except.map, bind,
        Except.bind, FileTree.outline, hlarge]
  | sealedFile size =>
    by_cases hlarge : c.maxFileSize < size <;>
      simp [readScript, FileSystem.fileSize?, FileSystem.read, h, hnode, Except.map, bind,
        Except.bind, FileTree.outline, hlarge]
  | _ =>
    simp [readScript, FileSystem.fileSize?, FileSystem.read, h, hnode, Except.map, bind,
      Except.bind, FileTree.outline]

theorem fileSize?_of_locate {fs : FileSystem} {p : Path} {trail : Trail}
    (h : fs.locate [] p = .ok trail) : fs.fileSize? [] p = (fs.node trail).size? := by
  cases hnode : fs.node trail <;>
    simp [FileSystem.fileSize?, h, hnode, Except.map, FileTree.size?]

theorem outlineFile_eq (fs : FileSystem) (c : ScanConfig) (s : ScriptFile) :
    outlineFile fs c s
      = ⟨String.ofList s.name, (readScript fs c s).1, s.language, (readScript fs c s).2⟩ := rfl

theorem status_outlineFile (fs : FileSystem) (c : ScanConfig) (s : ScriptFile) :
    (outlineFile fs c s).status = (readScript fs c s).2 := rfl

theorem symbols_outlineFile (fs : FileSystem) (c : ScanConfig) (s : ScriptFile) :
    (outlineFile fs c s).symbols = (readScript fs c s).1 := rfl

/-- A file that can be opened and is not too large is read. -/
theorem outlineFile_status {fs : FileSystem} {c : ScanConfig} {s : ScriptFile} {trail : Trail}
    {bytes : Bytes} (hlocate : fs.locate [] s.path = .ok trail)
    (hnode : fs.node trail = .file bytes) (hsmall : bytes.length ≤ c.maxFileSize) :
    (outlineFile fs c s).status = .parsed ∨ (outlineFile fs c s).status = .recovered ∨
      (outlineFile fs c s).status = .unparsable := by
  have hread := readScript_eq_outline hlocate c
  rw [hnode, FileTree.outline_of_small hsmall] at hread
  rw [status_outlineFile, hread]
  exact outlineBytes_status c s.language bytes

/-! ## Scripts on their own -/

/-- The parts of a node, for symbols that are not to be unfolded. -/
theorem exists_fileNode (name : String) (language : Language)
    (outlined : List Symbol × FileStatus) :
    ∃ f : FileNode, f = ⟨name, outlined.1, language, outlined.2⟩ ∧ f.name = name ∧
      f.language = language ∧ (f.symbols, f.status) = outlined :=
  ⟨_, rfl, rfl, rfl, rfl⟩

/-- A script on its own is given the symbols of its text. -/
theorem exists_scanFile_of_read {fs : FileSystem} {here : Trail} {p : Path} {language : Language}
    {bytes : Bytes} (hlanguage : Language.ofPath? p = some language)
    (hread : fs.read here p = .ok bytes) (c : ScanConfig) :
    ∃ f, scanFile fs here c p = .ok f ∧ f.name = lastName p ∧ f.language = language ∧
      (f.symbols, f.status) = outlineBytes c language bytes := by
  obtain ⟨f, hf, hparts⟩ := exists_fileNode (lastName p) language (outlineBytes c language bytes)
  refine ⟨f, ?_, hparts⟩
  simp only [scanFile, hlanguage, hread, hf]

/-- A script on its own has a language by its name, and its bytes could be read. -/
theorem scanFile_eq_ok {fs : FileSystem} {here : Trail} {c : ScanConfig} {p : Path} {f : FileNode}
    (h : scanFile fs here c p = .ok f) :
    ∃ language bytes, Language.ofPath? p = some language ∧ fs.read here p = .ok bytes := by
  rw [scanFile] at h
  split at h
  · cases h
  · next language hlanguage =>
    split at h
    · cases h
    · next bytes hread => exact ⟨language, bytes, hlanguage, hread⟩

end CodeAtlas
