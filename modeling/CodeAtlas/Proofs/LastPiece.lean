import CodeAtlas.Proofs.Writing

/-!
# The last piece of a path

A path along which a file can be written ends with the name of the file, in a directory that the
pieces before it lead to.

- `FileSystem.NamesLink`: the last piece is the name of a link.
- `FileSystem.EndsAt`: the last piece is a name in a directory.
- `FileSystem.followLinks_append_eq_ok`: where the pieces before the last one lead.
- `FileSystem.exists_endsAt`: a path for a file ends with its name, unless this is that of a link.
-/

namespace CodeAtlas

/-! ## Pieces of a path -/

namespace Path

theorem slash_not_mem_of_mem_pieces {p : Path} {piece : Name} (h : piece ∈ p.pieces) :
    '/' ∉ piece := by
  intro hslash
  have hnone := forall_mem_splitWhere isSlash p.text piece h '/' hslash
  rw [isSlash_slash] at hnone
  exact Bool.noConfusion hnone

/-- A path is its last piece, or ends with a slash and its last piece. -/
theorem exists_pieces (p : Path) :
    ∃ init last, p.pieces = init ++ [last] ∧
      (p.text = last ∨ ∃ front, p.text = front ++ '/' :: last) := by
  have hjoin : joinWith '/' p.pieces = p.text :=
    joinWith_splitWhere (fun c hc => by simpa [isSlash] using hc) p.text
  rcases List.eq_nil_or_concat p.pieces with hnil | ⟨init, last, hpieces⟩
  · exact absurd hnil (splitWhere_ne_nil _ _)
  · rw [List.concat_eq_append] at hpieces
    refine ⟨init, last, hpieces, ?_⟩
    rw [← hjoin, hpieces]
    by_cases hinit : init = []
    · exact .inl (by rw [hinit]; rfl)
    · exact .inr ⟨_, joinWith_append_singleton hinit last⟩

/-- The last piece of a path for a file holds no zero and is not empty. -/
theorem exists_lastPiece {p : Path} (hzero : '\x00' ∉ p.text)
    (hslash : p.pieces.getLast? ≠ some []) :
    ∃ init piece, p.pieces = init ++ [piece] ∧ piece ≠ [] ∧ '/' ∉ piece ∧ '\x00' ∉ piece := by
  obtain ⟨init, piece, hpieces, htext⟩ := p.exists_pieces
  have hmem : piece ∈ p.pieces := hpieces ▸ List.mem_append_right init List.mem_cons_self
  refine ⟨init, piece, hpieces, ?_, slash_not_mem_of_mem_pieces hmem, ?_⟩
  · rintro rfl
    simp [hpieces] at hslash
  · intro hbad
    rcases htext with htext | ⟨front, htext⟩
    · exact hzero (htext ▸ hbad)
    · exact hzero (by simp [htext, hbad])

end Path

/-! ## Where a path leads before its last piece -/

namespace FileSystem

variable {fs : FileSystem}

/-- A path ends with the name of a link: what is in front of its last piece leads to a directory,
and there the last piece is the name of a link. -/
def NamesLink (fs : FileSystem) (current : Trail) (p : Path) : Prop :=
  ∃ (place : Trail) (entries : List (Name × FileTree)) (name : Name) (target : Path),
    fs.followLinks maxLinks (startOf current p) p.pieces.dropLast = .ok (.present place) ∧
      fs.node place = .directory entries ∧ p.pieces.getLast? = some name ∧
      FileTree.child? entries name = some (.link target)

/-- The path of an entry names a link, if the entry is one. -/
theorem namesLink_ofLocation {l : Location} {place : Trail} {entries : List (Name × FileTree)}
    {name : Name} {target : Path} (hname : name.IsProper)
    (hlocate : fs.locate [] (.ofLocation l) = .ok place)
    (hnode : fs.node place = .directory entries)
    (hchild : FileTree.child? entries name = some (.link target)) :
    fs.NamesLink [] (.ofLocation (l ++ [name])) := by
  have hpieces := Path.pieces_ofLocation_append l hname
  refine ⟨place, entries, name, target, ?_, hnode, by simp [hpieces], hchild⟩
  rw [startOf, if_pos (Path.isAbsolute_ofLocation _), hpieces, List.dropLast_concat,
    followLinks_leadingPieces, ← find_ofLocation (zero_not_mem_of_locate hlocate)]
  exact locate_eq_ok_iff.1 hlocate

structure EndsAt (fs : FileSystem) (current : Trail) (p : Path) (place : Trail) (name : Name) :
    Prop where
  follow : fs.followLinks maxLinks (startOf current p) p.pieces.dropLast = .ok (.present place)
  leads : fs.Leads place
  directory : ∃ entries, fs.node place = .directory entries
  last : p.pieces.getLast? = some name
  proper : name.IsProper

/-- A path that ends with a name in a directory has this name as its last one. -/
theorem EndsAt.fileName? {current place : Trail} {p : Path} {name : Name}
    (h : fs.EndsAt current p place name) : p.fileName? = some name := by
  obtain ⟨init, hpieces⟩ := List.getLast?_eq_some_iff.1 h.last
  simp [Path.fileName?, Path.names, hpieces, h.proper.not_idle, h.proper.ne_parent]

section LastPiece

variable {piece : Name} {found : Found}

/-- What is found with a last piece is found by this piece where the others lead to. -/
theorem followPieces_append_eq_ok {cross : Trail → List Name → Except FileError Found}
    {follows : Trail → Prop} (hpiece : piece ≠ [])
    (hcross : ∀ start pieces, cross start (pieces ++ [piece]) = .ok found →
      ∃ place, cross start pieces = .ok (.present place) ∧ follows place)
    (hlast : ∀ place, fs.followPieces cross place [piece] = .ok found → follows place)
    {pieces : List Name} {here : Trail}
    (hfollow : fs.followPieces cross here (pieces ++ [piece]) = .ok found) :
    ∃ place, fs.followPieces cross here pieces = .ok (.present place) ∧ follows place := by
  induction pieces generalizing here with
  | nil => exact ⟨here, rfl, hlast here hfollow⟩
  | cons first rest ih =>
    rw [List.cons_append] at hfollow
    cases hstep : fs.stepPiece here first with
    | goes next =>
      rw [followPieces, hstep] at hfollow ⊢
      exact ih hfollow
    | crosses start more =>
      simp only [followPieces, hstep, ← List.append_assoc] at hfollow ⊢
      exact hcross _ _ hfollow
    | free name =>
      -- Behind a name that is free there is more than slashes.
      simp [followPieces, hstep, atEnd, hpiece] at hfollow
    | stops e => simp [followPieces, hstep] at hfollow

/-- Following pieces and one more is following the pieces to a place, and the last one from there.
-/
theorem followLinks_append_eq_ok (hpiece : piece ≠ []) {n : Nat} {pieces : List Name}
    {here : Trail} (hfollow : fs.followLinks n here (pieces ++ [piece]) = .ok found) :
    ∃ place, fs.followLinks n here pieces = .ok (.present place) ∧
      ∃ m, fs.followLinks m place [piece] = .ok found := by
  induction n generalizing here pieces with
  | zero =>
    exact followPieces_append_eq_ok hpiece (fun _ _ hbad => by simp at hbad)
      (fun _ hlast => ⟨0, hlast⟩) hfollow
  | succ n ih =>
    have hcross : ∀ start pieces, fs.followLinks n start (pieces ++ [piece]) = .ok found →
        ∃ place, fs.followLinks n start pieces = .ok (.present place) ∧
          ∃ m, fs.followLinks m place [piece] = .ok found := fun _ _ hmore => ih hmore
    exact followPieces_append_eq_ok hpiece hcross (fun _ hlast => ⟨n + 1, hlast⟩) hfollow

/-- What can be found in a directory is in a directory that can be found. -/
theorem exists_locate_of_append {l : Location} {name : Name} (hname : name.IsProper) {next : Trail}
    (hlocate : fs.locate [] (.ofLocation (l ++ [name])) = .ok next) :
    ∃ trail, fs.locate [] (.ofLocation l) = .ok trail := by
  cases l with
  | nil => exact ⟨[], rfl⟩
  | cons first rest =>
    have hzero := zero_not_mem_of_locate hlocate
    rw [locate_eq_ok_iff, find_ofLocation hzero, Path.pieces_ofLocation_append _ hname] at hlocate
    rw [Path.text_ofLocation_append (List.cons_ne_nil first rest)] at hzero
    obtain ⟨trail, hfollow, -⟩ := followLinks_append_eq_ok hname.ne_nil hlocate
    refine ⟨trail, ?_⟩
    rw [locate_eq_ok_iff, find_ofLocation fun hbad => hzero (List.mem_append_left _ hbad),
      ← followLinks_leadingPieces, hfollow]

/-- What a single piece may lead to. -/
theorem followLinks_singleton_eq_ok {m : Nat} {place : Trail}
    (hfollow : fs.followLinks m place [piece] = .ok found) :
    (∃ next, fs.stepPiece place piece = .goes next ∧ found = .present next) ∨
    (∃ start pieces, fs.stepPiece place piece = .crosses start pieces) ∨
    ∃ name, fs.stepPiece place piece = .free name ∧ found = .vacant place name := by
  cases hstep : fs.stepPiece place piece with
  | goes next =>
    rw [followLinks_of_goes hstep] at hfollow
    exact .inl ⟨next, rfl, (Except.ok.inj hfollow).symm⟩
  | crosses start pieces => exact .inr (.inl ⟨start, pieces, rfl⟩)
  | free name =>
    rw [followLinks_of_free hstep] at hfollow
    exact .inr (.inr ⟨name, rfl, (Except.ok.inj hfollow).symm⟩)
  | stops e => cases m <;> simp [followLinks, followPieces, hstep] at hfollow

/-- The place that holds another one is a directory. -/
theorem Leads.node_tail {here : Trail} (h : fs.Leads here) :
    ∃ entries, fs.node here.tail = .directory entries := by
  cases here with
  | nil => exact ⟨_, rfl⟩
  | cons e here =>
    obtain ⟨-, -, entries, hnode, -⟩ := h
    exact ⟨entries, hnode⟩

/-- A piece that leads to a file or to a free name, but not over a link, is the name of what it
leads to. -/
theorem entry_of_followLinks {m : Nat} {place : Trail} (hplace : fs.Leads place)
    (hpiece : piece ≠ [])
    (hlink : ∀ entries target, fs.node place = .directory entries →
      FileTree.child? entries piece ≠ some (.link target))
    (hfile : ∀ trail, found = .present trail → ∃ bytes, fs.node trail = .file bytes)
    (hfollow : fs.followLinks m place [piece] = .ok found) :
    (∃ entries, fs.node place = .directory entries) ∧ found.location = place.location ++ [piece] ∧
      Path.isIdle piece = false ∧ piece ≠ Path.parentName ∧
      (encodeUtf8 piece).length ≤ maxNameBytes := by
  have hcases := followLinks_singleton_eq_ok hfollow
  by_cases hdirectory : ∃ entries, fs.node place = .directory entries
  · obtain ⟨entries, hnode⟩ := hdirectory
    -- A piece that stays or goes up leads to a directory, and so to no file.
    rcases stepPiece_directory_cases piece with hstay | hup | hlong |
      ⟨hidle, hparent, hshort, hname⟩
    · have hfound : found = .present place := by simpa [hstay fs place entries hnode] using hcases
      obtain ⟨bytes, hbytes⟩ := hfile _ hfound
      simp [hnode] at hbytes
    · have hfound : found = .present place.tail := by
        simpa [hup fs place entries hnode] using hcases
      obtain ⟨bytes, hbytes⟩ := hfile _ hfound
      obtain ⟨above, habove⟩ := hplace.node_tail
      simp [habove] at hbytes
    · simp [hlong fs place entries hnode] at hcases
    · rw [hname fs place entries hnode] at hcases
      refine ⟨⟨entries, hnode⟩, ?_, hidle, hparent, hshort⟩
      rcases entryStep_cases place piece (FileTree.child? entries piece) with ⟨-, hfree⟩ |
        ⟨target, hchild, -⟩ | ⟨t, -, -, hgoes⟩
      · obtain rfl : found = .vacant place piece := by simpa [hfree] using hcases
        rfl
      · exact absurd hchild (hlink entries target hnode)
      · obtain rfl : found = .present ((piece, t) :: place) := by simpa [hgoes] using hcases
        rw [Found.location, Trail.location_cons]
  · rcases stepPiece_of_not_directory (not_exists.1 hdirectory) piece with ⟨-, hempty, -⟩ |
      ⟨e, hstops⟩
    · exact absurd hempty hpiece
    · simp [hstops] at hcases

end LastPiece

/-- A path along which a file can be written ends with a name in a directory, unless it names a
link, and the file is put there. -/
theorem exists_endsAt {current : Trail} (hcurrent : fs.Leads current) {p : Path} {found : Found}
    (hfind : fs.find current p = .ok found) (hadmits : FileTree.Admits fs.entries found.location)
    (hslash : p.pieces.getLast? ≠ some []) (hlink : ¬fs.NamesLink current p) :
    ∃ place name, fs.EndsAt current p place name ∧ found.location = place.location ++ [name] := by
  obtain ⟨hzero, -, hfollow⟩ := find_eq_ok.1 hfind
  have hreaches := find_reaches hcurrent hfind
  have hfile : ∀ trail, found = .present trail → ∃ bytes, fs.node trail = .file bytes := by
    rintro trail rfl
    exact hadmits.file_of_at? (Leads.at?_location hreaches)
  obtain ⟨init, piece, hpieces, hpiece, hnoslash, hnozero⟩ :=
    Path.exists_lastPiece hzero hslash
  rw [hpieces] at hfollow
  obtain ⟨place, hplace, m, hlast⟩ := followLinks_append_eq_ok hpiece hfollow
  have hleads : fs.Leads place := followLinks_reaches (hcurrent.startOf p) hplace
  have hinit : p.pieces.dropLast = init := by simp [hpieces]
  have hend : p.pieces.getLast? = some piece := by simp [hpieces]
  rw [← hinit] at hplace
  have hnolink : ∀ entries target, fs.node place = .directory entries →
      FileTree.child? entries piece ≠ some (.link target) := fun entries target hnode hchild =>
    hlink ⟨place, entries, piece, target, hplace, hnode, hend, hchild⟩
  obtain ⟨hdirectory, hlocation, hidle, hparent, hshort⟩ :=
    entry_of_followLinks hleads hpiece hnolink hfile hlast
  exact ⟨place, piece, ⟨hplace, hleads, hdirectory, hend,
    ⟨hidle, hparent, hnoslash, hnozero, hshort⟩⟩, hlocation⟩

end FileSystem

end CodeAtlas
