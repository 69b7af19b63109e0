import CodeAtlas.Proofs.Places

/-!
# Paths that files are written to

A path that a file is written to leads where any path leads. It is refused where it ends as the path
of a directory does, and so does one with a link at its end whose target ends in this way.

- `FileSystem.startOf`: the directory from which a path is followed.
- `FileSystem.openLinks_cases`: a path leads where it leads, or is refused.
- `FileSystem.openPath_eq_ok`, `FileSystem.find_of_openPath`: paths that are not refused.
- `FileSystem.getLast?_pieces_of_openPath`: no file is written to a path that ends with a slash.
- `FileSystem.openLinks_append`: a path with a name behind it.
-/

namespace CodeAtlas

namespace FileSystem

variable {fs : FileSystem}

/-- The directory from which a path is followed. -/
def startOf (current : Trail) (p : Path) : Trail := if p.isAbsolute then [] else current

/-- A path is followed from a directory that is there. -/
theorem Leads.startOf {current : Trail} (h : fs.Leads current) (p : Path) :
    fs.Leads (startOf current p) := by
  unfold FileSystem.startOf
  split
  · trivial
  · exact h

/-- A path leads somewhere if it is a text without zeros and its pieces lead there. -/
theorem find_eq_ok {current : Trail} {p : Path} {found : Found} :
    fs.find current p = .ok found ↔ '\x00' ∉ p.text ∧ p.text ≠ [] ∧
      fs.followLinks maxLinks (startOf current p) p.pieces = .ok found := by
  rw [find, startOf]
  by_cases hzero : '\x00' ∈ p.text
  · simp [hzero]
  · by_cases hempty : p.text = [] <;> simp [hzero, hempty]

/-- A path may be written to if, besides, it is not too long and its pieces are not refused. -/
theorem openPath_eq_ok {current : Trail} {p : Path} {found : Found} :
    fs.openPath current p = .ok found ↔ '\x00' ∉ p.text ∧
      (encodeUtf8 p.text).length ≤ maxPathBytes ∧ p.text ≠ [] ∧
      fs.openLinks maxLinks (startOf current p) p.pieces = .ok found := by
  rw [openPath, startOf]
  by_cases hzero : '\x00' ∈ p.text
  · simp [hzero]
  · by_cases hlong : maxPathBytes < (encodeUtf8 p.text).length
    · simp [hzero, hlong, Nat.not_le.2 hlong]
    · by_cases hempty : p.text = []
      · simp [hempty, encodeUtf8]
      · simp [hzero, hlong, Nat.not_lt.1 hlong, hempty]

/-! ## Refused paths -/

section Pieces

variable {cross cross' : Trail → List Name → Except FileError Found} {found : Found}

/-- A name with slashes behind it is one where a name is looked up. -/
theorem namesDirectory_of_free {here : Trail} {piece name : Name} {rest : List Name}
    (hstep : fs.stepPiece here piece = .free name) (hrest : rest ≠ []) (hend : atEnd rest = true) :
    fs.namesDirectory here piece rest = true := by
  obtain ⟨-, entries, hnode, hchild⟩ := stepPiece_free hstep
  rcases stepPiece_directory_cases piece with hstay | hup | hlong | ⟨hidle, hparent, -, -⟩
  · simp [hstay fs here entries hnode] at hstep
  · simp [hup fs here entries hnode] at hstep
  · simp [hlong fs here entries hnode] at hstep
  · simp [namesDirectory, hnode, FileTree.entries?, hidle, hparent, hrest, hend]

/-- With a name at the end nothing in front of it is refused. -/
theorem namesDirectory_append {piece : Name} (hpiece : piece ≠ []) (here : Trail) (first : Name)
    (rest : List Name) : fs.namesDirectory here first (rest ++ [piece]) = false := by
  simp [namesDirectory, atEnd, hpiece]

/-- Each piece is followed as on reading, or there is an error on ending as a directory does. -/
theorem openPieces_cases
    (hcross : ∀ start pieces, cross' start pieces = cross start pieces ∨
      cross' start pieces = .error .isDirectory) (pieces : List Name) (here : Trail) :
    fs.openPieces cross' here pieces = fs.followPieces cross here pieces ∨
      fs.openPieces cross' here pieces = .error .isDirectory := by
  induction pieces generalizing here with
  | nil => exact .inl rfl
  | cons piece rest ih =>
    rw [openPieces, followPieces]
    split
    · exact .inr rfl
    · cases fs.stepPiece here piece with
      | goes next => exact ih next
      -- The target of a link may be refused, too, with the rest of the path behind it.
      | crosses start more => exact hcross start (more ++ rest)
      | free name => exact .inl rfl
      | stops e => exact .inl rfl

/-- The pieces of a path lead where they lead, or are refused. -/
theorem openLinks_cases (n : Nat) (here : Trail) (pieces : List Name) :
    fs.openLinks n here pieces = fs.followLinks n here pieces ∨
      fs.openLinks n here pieces = .error .isDirectory := by
  induction n generalizing here pieces with
  | zero => exact openPieces_cases (fun _ _ => .inl rfl) pieces here
  | succ n ih => exact openPieces_cases (fun start more => ih start more) pieces here

/-- What is opened for writing is what the path leads to on reading. -/
theorem find_of_openPath {current : Trail} {p : Path}
    (h : fs.openPath current p = .ok found) : fs.find current p = .ok found := by
  obtain ⟨hzero, -, hne, hopen⟩ := openPath_eq_ok.1 h
  refine find_eq_ok.2 ⟨hzero, hne, ?_⟩
  rcases fs.openLinks_cases maxLinks (startOf current p) p.pieces with hsame | hrefused
  · rw [← hsame, hopen]
  · simp [hrefused] at hopen

/-! ## Paths that end with a slash -/

/-- Slashes at the end lead to a directory only, which cannot be written to. -/
theorem obstacle?_of_last_empty
    (hcross : ∀ start pieces, pieces.getLast? = some [] → cross start pieces = .ok found →
      fs.obstacle? found = some .isDirectory)
    {pieces : List Name} {here : Trail} (hlast : pieces.getLast? = some [])
    (hopen : fs.openPieces cross here pieces = .ok found) :
    fs.obstacle? found = some .isDirectory := by
  induction pieces generalizing here with
  | nil => simp at hlast
  | cons piece rest ih =>
    rw [openPieces] at hopen
    split at hopen
    · simp at hopen
    rename_i hnamed
    by_cases hrest : rest = []
    · -- The empty piece stays in a directory.
      subst hrest
      obtain rfl : piece = [] := by simpa using hlast
      cases hnode : fs.node here with
      | directory entries =>
        obtain rfl : found = .present here := by
          simpa [stepPiece, hnode, Path.isIdle, openPieces, eq_comm] using hopen
        simp [obstacle?, hnode]
      | sealedDirectory =>
        obtain rfl : found = .present here := by
          simpa [stepPiece, hnode, openPieces, eq_comm] using hopen
        simp [obstacle?, hnode]
      | _ => simp [stepPiece, hnode] at hopen
    · have hend : rest.getLast? = some [] := by
        obtain ⟨next, more, rfl⟩ := List.exists_cons_of_ne_nil hrest
        simpa [List.getLast?_cons_cons] using hlast
      cases hstep : fs.stepPiece here piece with
      | goes next =>
        rw [hstep] at hopen
        exact ih hend hopen
      | crosses start more =>
        rw [hstep] at hopen
        exact hcross _ _ (by rw [List.getLast?_append, hend, Option.some_or]) hopen
      | free name =>
        simp only [hstep] at hopen
        split at hopen
        · -- The path was refused before the free name was looked up.
          rename_i hslashes
          exact absurd (namesDirectory_of_free hstep hrest hslashes) hnamed
        · simp at hopen
      | stops e => simp [hstep] at hopen

/-- The same with links followed on the way: nothing can be written to where such a path leads. -/
theorem openLinks_last_empty {n : Nat} {pieces : List Name} {here : Trail}
    (hlast : pieces.getLast? = some []) (hopen : fs.openLinks n here pieces = .ok found) :
    fs.obstacle? found = some .isDirectory := by
  induction n generalizing here pieces with
  | zero => exact obstacle?_of_last_empty (fun _ _ _ hbad => by simp at hbad) hlast hopen
  | succ n ih => exact obstacle?_of_last_empty (fun _ _ hend hmore => ih hend hmore) hlast hopen

/-- A path that a file can be written to does not end with a slash. -/
theorem getLast?_pieces_of_openPath {current : Trail} {p : Path}
    (h : fs.openPath current p = .ok found) (hfree : fs.obstacle? found = none) :
    p.pieces.getLast? ≠ some [] := by
  intro hlast
  obtain ⟨-, -, -, hopen⟩ := openPath_eq_ok.1 h
  simp [openLinks_last_empty hlast hopen] at hfree

/-! ## A name at the end -/

theorem openPieces_append {piece : Name} (hpiece : piece ≠ []) {trail : Trail}
    {result : Except FileError Found}
    (hcross : ∀ start pieces, cross start pieces = .ok (.present trail) →
      cross' start (pieces ++ [piece]) = result)
    (hlast : fs.openPieces cross' trail [piece] = result) {pieces : List Name} {here : Trail}
    (hfollow : fs.followPieces cross here pieces = .ok (.present trail)) :
    fs.openPieces cross' here (pieces ++ [piece]) = result := by
  induction pieces generalizing here with
  | nil =>
    obtain rfl : here = trail := Found.present.inj (Except.ok.inj hfollow)
    exact hlast
  | cons first rest ih =>
    rw [List.cons_append, openPieces, namesDirectory_append hpiece]
    cases hstep : fs.stepPiece here first with
    | goes next =>
      rw [followPieces, hstep] at hfollow
      exact ih hfollow
    | crosses start more =>
      rw [followPieces, hstep] at hfollow
      simpa using hcross _ _ hfollow
    | free name =>
      simp only [followPieces, hstep] at hfollow
      split at hfollow <;> simp at hfollow
    | stops e => simp [followPieces, hstep] at hfollow

/-- A name behind a path is opened in the directory that the path leads to. -/
theorem openLinks_append {piece : Name} (hpiece : piece ≠ []) {n : Nat} {pieces : List Name}
    {here trail : Trail} {result : Except FileError Found}
    (hlast : ∀ n, fs.openLinks n trail [piece] = result)
    (hfollow : fs.followLinks n here pieces = .ok (.present trail)) :
    fs.openLinks n here (pieces ++ [piece]) = result := by
  induction n generalizing here pieces with
  | zero => exact openPieces_append hpiece (fun _ _ hbad => by simp at hbad) (hlast 0) hfollow
  | succ n ih =>
    exact openPieces_append hpiece (fun _ _ hmore => ih hmore) (hlast (n + 1)) hfollow

theorem openLinks_of_goes {trail next : Trail} {piece : Name}
    (hstep : fs.stepPiece trail piece = .goes next) (n : Nat) :
    fs.openLinks n trail [piece] = .ok (.present next) := by
  cases n <;> simp [openLinks, openPieces, namesDirectory, hstep]

end Pieces

end FileSystem

end CodeAtlas
