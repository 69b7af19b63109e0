import CodeAtlas.Proofs.LastPiece

/-!
# Paths after a file was written

Whatever a path led to before a file was written, it leads there still. The path that the file was
written to leads to the file, if it does not end with a link.

- `FileSystem.SamePlace`: a place before and after the file was written.
- `FileSystem.Wrote.locate`: a path leads to the same place.
- `FileSystem.Wrote.find_written`: the path of the file leads to the file.
- `FileSystem.Wrote.again`: writing the file once more changes nothing.
-/

namespace CodeAtlas

theorem Trail.location_tail (here : Trail) :
    Trail.location here.tail = here.location.dropLast := by
  cases here <;> simp [Trail.location]

namespace FileSystem

variable {fs fs' : FileSystem}

/-- What is at the location of an entry of a directory is the entry. -/
theorem Leads.at?_child {here : Trail} {entries : List (Name × FileTree)} (h : fs.Leads here)
    (hnode : fs.node here = .directory entries) (name : Name) :
    fs.at? (here.location ++ [name]) = FileTree.child? entries name := by
  rw [at?, FileTree.at?_append, ← at?, h.at?_location, hnode, Option.bind_some,
    FileTree.at?_directory_cons]
  cases FileTree.child? entries name <;> rfl

structure SamePlace (fs fs' : FileSystem) (here here' : Trail) : Prop where
  before : fs.Leads here
  after : fs'.Leads here'
  location : here'.location = here.location

theorem SamePlace.root : SamePlace fs fs' [] [] := ⟨trivial, trivial, rfl⟩

theorem SamePlace.tail {here here' : Trail} (h : SamePlace fs fs' here here') :
    SamePlace fs fs' here.tail here'.tail where
  before := h.before.tail
  after := h.after.tail
  location := by rw [Trail.location_tail, Trail.location_tail, h.location]

theorem SamePlace.cons {here here' : Trail} (h : SamePlace fs fs' here here')
    {entries entries' : List (Name × FileTree)} {name : Name} {t t' : FileTree}
    (hnode : fs.node here = .directory entries) (hnode' : fs'.node here' = .directory entries')
    (hchild : FileTree.child? entries name = some t)
    (hchild' : FileTree.child? entries' name = some t') (ht : t.IsSolid) (ht' : t'.IsSolid) :
    SamePlace fs fs' ((name, t) :: here) ((name, t') :: here') where
  before := ⟨h.before, ht, entries, hnode, hchild⟩
  after := ⟨h.after, ht', entries', hnode', hchild'⟩
  location := by rw [Trail.location_cons, Trail.location_cons, h.location]

/-! ## What shows after the file was written -/

namespace Wrote

variable {names : List Location} {bytes : Bytes}

/-- What was there before still shows, or it is the file. -/
theorem at?_cases (h : fs.Wrote fs' names bytes) {m : Location} {t : FileTree}
    (hat : fs.at? m = some t) :
    (m ∈ names ∧ (∃ old, t = .file old) ∧ fs'.at? m = some (.file bytes)) ∨
    (m ∉ names ∧ ∃ t', fs'.at? m = some t' ∧ t'.surface = t.surface) := by
  by_cases hm : m ∈ names
  · exact .inl ⟨hm, h.before m hm t hat, h.after m hm⟩
  · refine .inr ⟨hm, ?_⟩
    have hshows := h.elsewhere m hm
    rw [hat, Option.map_some, Option.map_eq_some_iff] at hshows
    exact hshows

/-- What is no directory shows as it is. -/
theorem at?_of_not_directory (h : fs.Wrote fs' names bytes) {m : Location} {t : FileTree}
    (hm : m ∉ names) (hat : fs.at? m = some t) (ht : ∀ entries, t ≠ .directory entries) :
    fs'.at? m = some t := by
  rcases h.at?_cases hat with ⟨hin, -⟩ | ⟨-, t', hat', hshows⟩
  · exact absurd hin hm
  · cases t with
    | directory entries => exact absurd rfl (ht entries)
    | _ => cases t' <;> simp_all [FileTree.surface]

theorem at?_directory (h : fs.Wrote fs' names bytes) {m : Location}
    {entries : List (Name × FileTree)} (hat : fs.at? m = some (.directory entries)) :
    ∃ entries', fs'.at? m = some (.directory entries') := by
  rcases h.at?_cases hat with ⟨-, ⟨old, hbad⟩, -⟩ | ⟨-, t', hat', hshows⟩
  · simp at hbad
  · cases t' with
    | directory entries' => exact ⟨entries', hat'⟩
    | _ => simp [FileTree.surface] at hshows

theorem at?_link (h : fs.Wrote fs' names bytes) {m : Location} {target : Path}
    (hat : fs.at? m = some (.link target)) : fs'.at? m = some (.link target) := by
  refine h.at?_of_not_directory (fun hm => ?_) hat (by simp)
  obtain ⟨old, hbad⟩ := h.before m hm _ hat
  simp at hbad

theorem at?_solid (h : fs.Wrote fs' names bytes) {m : Location} {t : FileTree}
    (hat : fs.at? m = some t) (ht : t.IsSolid) : ∃ t', fs'.at? m = some t' ∧ t'.IsSolid := by
  rcases h.at?_cases hat with ⟨-, -, hat'⟩ | ⟨-, t', hat', hshows⟩
  · exact ⟨_, hat', trivial⟩
  · refine ⟨t', hat', ?_⟩
    cases t' with
    | link target => cases t <;> simp_all [FileTree.surface, FileTree.IsSolid]
    | _ => trivial

/-- A directory is still a directory. -/
theorem node_directory (h : fs.Wrote fs' names bytes) {here here' : Trail}
    (hplace : SamePlace fs fs' here here') {entries : List (Name × FileTree)}
    (hnode : fs.node here = .directory entries) :
    ∃ entries', fs'.node here' = .directory entries' := by
  have hat := hplace.before.at?_location
  rw [hnode] at hat
  obtain ⟨entries', hat'⟩ := h.at?_directory hat
  refine ⟨entries', ?_⟩
  rw [← hplace.location, hplace.after.at?_location] at hat'
  exact Option.some.inj hat'

theorem node_sealed (h : fs.Wrote fs' names bytes) {here here' : Trail}
    (hplace : SamePlace fs fs' here here') (hnode : fs.node here = .sealedDirectory) :
    fs'.node here' = .sealedDirectory := by
  have hat := hplace.before.at?_location
  rw [hnode] at hat
  have hout : here.location ∉ names := by
    intro hm
    obtain ⟨old, hbad⟩ := h.before _ hm _ hat
    simp at hbad
  have hat' := h.at?_of_not_directory hout hat (by simp)
  rw [← hplace.location, hplace.after.at?_location] at hat'
  exact Option.some.inj hat'

end Wrote

/-! ## Following a path -/

section Following

variable {names : List Location} {bytes : Bytes} {here here' : Trail} {piece : Name}

/-- A piece that led on still leads on, to the same place. -/
theorem Wrote.stepPiece_goes (h : fs.Wrote fs' names bytes) (hplace : SamePlace fs fs' here here')
    {next : Trail} (hstep : fs.stepPiece here piece = .goes next) :
    ∃ next', fs'.stepPiece here' piece = .goes next' ∧ SamePlace fs fs' next next' := by
  -- Of which kind a piece is does not depend on the entries; only a name is looked up.
  by_cases hdirectory : ∃ entries, fs.node here = .directory entries
  · obtain ⟨entries, hnode⟩ := hdirectory
    obtain ⟨entries', hnode'⟩ := h.node_directory hplace hnode
    rcases stepPiece_directory_cases piece with hstay | hup | hlong | ⟨-, -, -, hname⟩
    · obtain rfl := PieceStep.goes.inj ((hstay fs here entries hnode).symm.trans hstep)
      exact ⟨here', hstay fs' here' entries' hnode', hplace⟩
    · obtain rfl := PieceStep.goes.inj ((hup fs here entries hnode).symm.trans hstep)
      exact ⟨here'.tail, hup fs' here' entries' hnode', hplace.tail⟩
    · simp [hlong fs here entries hnode] at hstep
    · rw [hname fs here entries hnode] at hstep
      rcases entryStep_cases here piece (FileTree.child? entries piece) with ⟨-, hfree⟩ |
        ⟨target, -, hcross⟩ | ⟨t, hchild, ht, hgoes⟩
      · simp [hfree] at hstep
      · simp [hcross] at hstep
      · obtain rfl := PieceStep.goes.inj (hgoes.symm.trans hstep)
        -- The entry may be the file, or a directory around it, so that it need not be the same.
        have hat := hplace.before.at?_child hnode piece
        rw [hchild] at hat
        obtain ⟨t', hat', ht'⟩ := h.at?_solid hat ht
        rw [← hplace.location, hplace.after.at?_child hnode' piece] at hat'
        refine ⟨(piece, t') :: here', ?_, hplace.cons hnode hnode' hchild hat' ht ht'⟩
        rw [hname fs' here' entries' hnode', hat', entryStep_solid ht']
  · rcases stepPiece_of_not_directory (not_exists.1 hdirectory) piece with
      ⟨hnode, rfl, hstay⟩ | ⟨e, hstops⟩
    · obtain rfl := PieceStep.goes.inj (hstay.symm.trans hstep)
      have hnode' := h.node_sealed hplace hnode
      exact ⟨here', by simp [stepPiece, hnode'], hplace⟩
    · simp [hstops] at hstep

/-- A link still leads on from the same place, to the same target. -/
theorem Wrote.stepPiece_crosses (h : fs.Wrote fs' names bytes) (hplace : SamePlace fs fs' here here')
    {start : Trail} {pieces : List Name} (hstep : fs.stepPiece here piece = .crosses start pieces) :
    ∃ start', fs'.stepPiece here' piece = .crosses start' pieces ∧
      SamePlace fs fs' start start' := by
  obtain ⟨-, entries, target, hnode, hchild⟩ := FileSystem.stepPiece_crosses hstep
  obtain ⟨entries', hnode'⟩ := h.node_directory hplace hnode
  have hat := hplace.before.at?_child hnode piece
  rw [hchild] at hat
  have hat' := h.at?_link hat
  rw [← hplace.location, hplace.after.at?_child hnode' piece] at hat'
  rcases stepPiece_directory_cases piece with hstay | hup | hlong | ⟨-, -, -, hname⟩
  · simp [hstay fs here entries hnode] at hstep
  · simp [hup fs here entries hnode] at hstep
  · simp [hlong fs here entries hnode] at hstep
  · rw [hname fs here entries hnode, hchild] at hstep
    obtain ⟨rfl, rfl⟩ := PieceStep.crosses.inj hstep
    refine ⟨_, by rw [hname fs' here' entries' hnode', hat']; rfl, ?_⟩
    split
    · exact .root
    · exact hplace

theorem Wrote.followPieces (h : fs.Wrote fs' names bytes)
    {cross cross' : Trail → List Name → Except FileError Found}
    (hcross : ∀ start start' pieces trail, SamePlace fs fs' start start' →
      cross start pieces = .ok (.present trail) →
        ∃ trail', cross' start' pieces = .ok (.present trail') ∧ SamePlace fs fs' trail trail')
    {pieces : List Name} {trail : Trail} (hplace : SamePlace fs fs' here here')
    (hfollow : fs.followPieces cross here pieces = .ok (.present trail)) :
    ∃ trail', fs'.followPieces cross' here' pieces = .ok (.present trail') ∧
      SamePlace fs fs' trail trail' := by
  induction pieces generalizing here here' with
  | nil =>
    obtain rfl := Found.present.inj (Except.ok.inj hfollow)
    exact ⟨here', rfl, hplace⟩
  | cons piece rest ih =>
    cases hstep : fs.stepPiece here piece with
    | goes next =>
      obtain ⟨next', hstep', hnext⟩ := h.stepPiece_goes hplace hstep
      rw [FileSystem.followPieces, hstep] at hfollow
      rw [FileSystem.followPieces, hstep']
      exact ih hnext hfollow
    | crosses start pieces =>
      obtain ⟨start', hstep', hstart⟩ := h.stepPiece_crosses hplace hstep
      rw [FileSystem.followPieces, hstep] at hfollow
      rw [FileSystem.followPieces, hstep']
      exact hcross _ _ _ _ hstart hfollow
    | free name =>
      simp only [FileSystem.followPieces, hstep] at hfollow
      split at hfollow <;> simp at hfollow
    | stops e => simp [FileSystem.followPieces, hstep] at hfollow

/-- A path leads to the same place before and after a file was written. -/
theorem Wrote.followLinks (h : fs.Wrote fs' names bytes) {n : Nat} {pieces : List Name}
    {trail : Trail} (hplace : SamePlace fs fs' here here')
    (hfollow : fs.followLinks n here pieces = .ok (.present trail)) :
    ∃ trail', fs'.followLinks n here' pieces = .ok (.present trail') ∧
      SamePlace fs fs' trail trail' := by
  -- A link starts a path of its own, with a link less to be followed.
  induction n generalizing here here' pieces trail with
  | zero => exact h.followPieces (fun _ _ _ _ _ hbad => by simp at hbad) hplace hfollow
  | succ n ih =>
    have hcross : ∀ start start' pieces trail, SamePlace fs fs' start start' →
        fs.followLinks n start pieces = .ok (.present trail) →
          ∃ trail', fs'.followLinks n start' pieces = .ok (.present trail') ∧
            SamePlace fs fs' trail trail' := fun _ _ _ _ hstart hmore => ih hstart hmore
    exact h.followPieces hcross hplace hfollow

theorem SamePlace.startOf {current current' : Trail} (h : SamePlace fs fs' current current')
    (p : Path) : SamePlace fs fs' (startOf current p) (startOf current' p) := by
  unfold FileSystem.startOf
  split
  · exact .root
  · exact h

/-- Where a path led to, it leads to the same place after the file was written. -/
theorem Wrote.locate (h : fs.Wrote fs' names bytes) {current current' trail : Trail} {p : Path}
    (hcurrent : SamePlace fs fs' current current') (hlocate : fs.locate current p = .ok trail) :
    ∃ trail', fs'.locate current' p = .ok trail' ∧ SamePlace fs fs' trail trail' := by
  obtain ⟨hzero, hne, hfollow⟩ := find_eq_ok.1 (locate_eq_ok_iff.1 hlocate)
  obtain ⟨trail', hfollow', htrail⟩ := h.followLinks (hcurrent.startOf p) hfollow
  exact ⟨trail', locate_eq_ok_iff.2 (find_eq_ok.2 ⟨hzero, hne, hfollow'⟩), htrail⟩

end Following

/-! ## The path of the file -/

section WrittenFile

variable {names : List Location} {bytes : Bytes} {current current' place : Trail} {p : Path}
  {name : Name}

/-- The path along which a file was written leads to it, and may be written to again. -/
theorem Wrote.find_written (hend : fs.EndsAt current p place name)
    (h : fs.Wrote fs' names bytes) (hname : place.location ++ [name] ∈ names)
    (hcurrent : SamePlace fs fs' current current')
    {found : Found} (hopen : fs.openPath current p = .ok found) :
    ∃ trail, fs'.find current' p = .ok (.present trail) ∧
      fs'.openPath current' p = .ok (.present trail) ∧
      trail.location = place.location ++ [name] ∧ fs'.node trail = .file bytes := by
  obtain ⟨hzero, hshort, hne, -⟩ := openPath_eq_ok.1 hopen
  obtain ⟨place', hfollow, hplace⟩ := h.followLinks (hcurrent.startOf p) hend.follow
  obtain ⟨entries, hnode⟩ := hend.directory
  obtain ⟨entries', hnode'⟩ := h.node_directory hplace hnode
  have hchild : FileTree.child? entries' name = some (.file bytes) := by
    rw [← hplace.after.at?_child hnode', hplace.location]
    exact h.after _ hname
  have hstep := stepPiece_of_child? hend.proper hnode' hchild trivial
  have hopened : fs'.openPath current' p = .ok (.present ((name, .file bytes) :: place')) := by
    refine openPath_eq_ok.2 ⟨hzero, hshort, hne, ?_⟩
    obtain ⟨init, hpieces⟩ := List.getLast?_eq_some_iff.1 hend.last
    rw [hpieces, List.dropLast_concat] at hfollow
    rw [hpieces]
    exact openLinks_append hend.proper.ne_nil (openLinks_of_goes hstep) hfollow
  refine ⟨_, find_of_openPath hopened, hopened, ?_, rfl⟩
  rw [Trail.location_cons, hplace.location]

/-- A file that was written can be read along its path, and writing it once more changes nothing. -/
theorem Wrote.again (hend : fs.EndsAt current p place name)
    (h : fs.Wrote fs' (fs.allNames (place.location ++ [name])) bytes)
    (hcurrent : SamePlace fs fs' current current')
    {found : Found} (hopen : fs.openPath current p = .ok found) :
    fs'.read current' p = .ok bytes ∧ fs'.write current' p bytes = .ok fs' := by
  obtain ⟨trail, hfound, hopened, hlocation, hnode⟩ :=
    h.find_written hend List.mem_cons_self hcurrent hopen
  constructor
  · simp [read, locate_eq_ok_iff.2 hfound, hnode, bind, Except.bind]
  · refine write_eq_ok_iff.2 ⟨_, hopened, by simp [obstacle?, hnode], ?_⟩
    rw [Found.location, hlocation]
    exact h.putEach_again

end WrittenFile

end FileSystem

end CodeAtlas
