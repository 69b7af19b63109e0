import CodeAtlas.Proofs.ScriptNames

/-!
# Places in a file system

What is known of the trail that a path leads to.

- `FileSystem.WellFormed`: the names in each directory are proper and differ.
- `FileSystem.Leads`: each entry of a trail is in the directory before it, and none is a link.
- `FileSystem.Reaches`: what a path may lead to: such a trail, or a free name.
- `FileSystem.find_reaches`, `FileSystem.locate_leads`: what a path leads to.
- `FileSystem.locate_append`: the path of an entry leads a step further than that of its directory.
- `FileSystem.place?`: the location that a path leads to.
- `FileTree.directoryPlaces`: the locations of all directories of a tree.
-/

namespace CodeAtlas

/-! ## Well-formed trees -/

mutual

/-- The names in each directory of a tree are proper and differ. -/
def FileTree.WellFormed : FileTree → Prop
  | .directory entries => (entries.map (·.1)).Nodup ∧ FileTree.EntriesWellFormed entries
  | _ => True

def FileTree.EntriesWellFormed : List (Name × FileTree) → Prop
  | [] => True
  | (name, t) :: rest =>
    name.IsProper ∧ FileTree.WellFormed t ∧ FileTree.EntriesWellFormed rest

end

def FileSystem.WellFormed (fs : FileSystem) : Prop := (FileTree.directory fs.entries).WellFormed

/-- What holds of a directory if it holds of its entries, and of all other trees, holds of every
tree. -/
@[elab_as_elim]
theorem FileTree.induction {motive : FileTree → Prop} (file : ∀ bytes, motive (.file bytes))
    (sealedFile : ∀ size, motive (.sealedFile size))
    (directory : ∀ entries, (∀ e ∈ entries, motive e.2) → motive (.directory entries))
    (sealedDirectory : motive .sealedDirectory) (link : ∀ target, motive (.link target))
    (t : FileTree) : motive t :=
  FileTree.rec (motive_1 := motive) (motive_2 := fun entries => ∀ e ∈ entries, motive e.2)
    (motive_3 := fun e => motive e.2) file sealedFile directory sealedDirectory link
    (fun _ h => absurd h List.not_mem_nil)
    (fun _ _ hfirst hrest e he => (List.mem_cons.1 he).elim (fun h => h ▸ hfirst) (hrest e))
    (fun _ _ h => h) t

namespace FileTree

/-- Is it a file, whether or not it may be opened? -/
def IsFile : FileTree → Prop
  | .file _ | .sealedFile _ => True
  | _ => False

def IsSolid : FileTree → Prop
  | .link _ => False
  | _ => True

theorem IsFile.isSolid {t : FileTree} (h : t.IsFile) : t.IsSolid := by
  cases t <;> trivial

/-- Entries are well formed iff each of them is. -/
theorem entriesWellFormed_iff {entries : List (Name × FileTree)} :
    EntriesWellFormed entries ↔ ∀ e ∈ entries, e.1.IsProper ∧ e.2.WellFormed := by
  induction entries with
  | nil => simp [EntriesWellFormed]
  | cons e rest ih =>
    obtain ⟨name, t⟩ := e
    simp [EntriesWellFormed, ih, and_assoc]

/-- A directory is well formed iff its names differ and its entries are well formed. -/
theorem wellFormed_directory_iff {entries : List (Name × FileTree)} :
    (directory entries).WellFormed ↔
      (entries.map (·.1)).Nodup ∧ ∀ e ∈ entries, e.1.IsProper ∧ e.2.WellFormed := by
  simp [WellFormed, entriesWellFormed_iff]

theorem mem_of_child? {entries : List (Name × FileTree)} {name : Name} {t : FileTree}
    (h : child? entries name = some t) : (name, t) ∈ entries := by
  simp only [child?, Option.map_eq_some_iff] at h
  obtain ⟨⟨found, u⟩, hfind, rfl⟩ := h
  have hname : found = name := by simpa using List.find?_some hfind
  exact hname ▸ List.mem_of_find?_eq_some hfind

/-- Where names differ, each entry is found by its name. -/
theorem child?_eq_some_iff {entries : List (Name × FileTree)} (h : (entries.map (·.1)).Nodup)
    {name : Name} {t : FileTree} : child? entries name = some t ↔ (name, t) ∈ entries := by
  refine ⟨mem_of_child?, fun hmem => ?_⟩
  induction entries with
  | nil => simp at hmem
  | cons e rest ih =>
    simp only [List.map_cons, List.nodup_cons, List.mem_map, not_exists, not_and] at h
    rcases List.mem_cons.1 hmem with rfl | hmem
    · simp [child?]
    -- The first entry has another name, since names differ.
    · have hne : e.1 ≠ name := fun heq => h.1 _ hmem heq.symm
      have hrest := ih h.2 hmem
      simpa [child?, hne] using hrest

end FileTree

/-! ## Trails -/

theorem Trail.location_cons (name : Name) (t : FileTree) (here : Trail) :
    Trail.location ((name, t) :: here) = here.location ++ [name] := by
  simp [Trail.location]

namespace FileSystem

variable {fs : FileSystem}

/-- Each entry of a trail is in the directory before it, and none is a link. -/
def Leads (fs : FileSystem) : Trail → Prop
  | [] => True
  | (name, t) :: here =>
    fs.Leads here ∧ t.IsSolid ∧
      ∃ entries, fs.node here = .directory entries ∧ FileTree.child? entries name = some t

theorem Leads.tail {here : Trail} (h : fs.Leads here) : fs.Leads here.tail := by
  cases here with
  | nil => exact h
  | cons e here => exact h.1

/-- What a trail leads to is no link. -/
theorem Leads.isSolid_node {here : Trail} (h : fs.Leads here) : (fs.node here).IsSolid := by
  cases here with
  | nil => trivial
  | cons e here => exact h.2.1

/-- What a trail of a well-formed file system leads to is well formed. -/
theorem Leads.wellFormed_node (hfs : fs.WellFormed) {here : Trail} (h : fs.Leads here) :
    (fs.node here).WellFormed := by
  induction here with
  | nil => exact hfs
  | cons e here ih =>
    obtain ⟨hhere, _, entries, hnode, hchild⟩ := h
    have hdirectory := ih hhere
    rw [hnode, FileTree.wellFormed_directory_iff] at hdirectory
    exact (hdirectory.2 _ (FileTree.mem_of_child? hchild)).2

/-- What a name does in a directory, by the entry of this name. -/
def entryStep (here : Trail) (name : Name) : Option FileTree → PieceStep
  | none => .free name
  | some (.link target) => .crosses (if target.isAbsolute then [] else here) target.pieces
  | some t => .goes ((name, t) :: here)

theorem entryStep_solid {t : FileTree} (ht : t.IsSolid) (here : Trail) (name : Name) :
    entryStep here name (some t) = .goes ((name, t) :: here) := by
  cases t with
  | link target => exact absurd ht (by simp [FileTree.IsSolid])
  | _ => rfl

/-- A name is free, or it is that of a link, or it leads on. -/
theorem entryStep_cases (here : Trail) (name : Name) (entry : Option FileTree) :
    (entry = none ∧ entryStep here name entry = .free name) ∨
    (∃ target, entry = some (.link target) ∧ entryStep here name entry
      = .crosses (if target.isAbsolute then [] else here) target.pieces) ∨
    ∃ t, entry = some t ∧ t.IsSolid ∧ entryStep here name entry = .goes ((name, t) :: here) := by
  cases entry with
  | none => exact .inl ⟨rfl, rfl⟩
  | some t =>
    cases t with
    | link target => exact .inr (.inl ⟨target, rfl, rfl⟩)
    | _ => exact .inr (.inr ⟨_, rfl, trivial, rfl⟩)

/-- A piece that is a name is looked up among the entries of the directory. -/
theorem stepPiece_eq_entryStep {here : Trail} {entries : List (Name × FileTree)} {piece : Name}
    (hnode : fs.node here = .directory entries) (hidle : Path.isIdle piece = false)
    (hparent : piece ≠ Path.parentName) (hshort : (encodeUtf8 piece).length ≤ maxNameBytes) :
    fs.stepPiece here piece = entryStep here piece (FileTree.child? entries piece) := by
  simp only [stepPiece, hnode, hidle, hparent, Nat.not_lt.2 hshort, beq_iff_eq, if_false,
    Bool.false_eq_true]
  cases FileTree.child? entries piece with
  | none => rfl
  | some t => cases t <;> rfl

/-- In all directories a piece stays, goes up, is too long, or is looked up among the entries. -/
theorem stepPiece_directory_cases (piece : Name) :
    (∀ (fs : FileSystem) (here : Trail) (entries : List (Name × FileTree)),
      fs.node here = .directory entries → fs.stepPiece here piece = .goes here) ∨
    (∀ (fs : FileSystem) (here : Trail) (entries : List (Name × FileTree)),
      fs.node here = .directory entries → fs.stepPiece here piece = .goes here.tail) ∨
    (∀ (fs : FileSystem) (here : Trail) (entries : List (Name × FileTree)),
      fs.node here = .directory entries → fs.stepPiece here piece = .stops .nameTooLong) ∨
    (Path.isIdle piece = false ∧ piece ≠ Path.parentName ∧
      (encodeUtf8 piece).length ≤ maxNameBytes ∧
      ∀ (fs : FileSystem) (here : Trail) (entries : List (Name × FileTree)),
        fs.node here = .directory entries →
          fs.stepPiece here piece = entryStep here piece (FileTree.child? entries piece)) := by
  by_cases hidle : Path.isIdle piece = true
  · exact .inl fun fs here entries hnode => by simp [stepPiece, hnode, hidle]
  · by_cases hparent : piece = Path.parentName
    · have hup : (piece == Path.parentName) = true := by simpa using hparent
      exact .inr (.inl fun fs here entries hnode => by simp [stepPiece, hnode, hidle, hup])
    · by_cases hlong : maxNameBytes < (encodeUtf8 piece).length
      · exact .inr (.inr (.inl fun fs here entries hnode => by
          simp [stepPiece, hnode, hidle, hparent, hlong]))
      · have hshort := Nat.not_lt.1 hlong
        have hname : Path.isIdle piece = false := by simpa using hidle
        exact .inr (.inr (.inr ⟨hname, hparent, hshort, fun fs here entries hnode =>
          stepPiece_eq_entryStep hnode hname hparent hshort⟩))

/-- Where there is no directory that may be entered, only an empty piece leads on, and only from a
directory that is sealed. -/
theorem stepPiece_of_not_directory {here : Trail}
    (h : ∀ entries, fs.node here ≠ .directory entries) (piece : Name) :
    (fs.node here = .sealedDirectory ∧ piece = [] ∧ fs.stepPiece here piece = .goes here) ∨
      ∃ e, fs.stepPiece here piece = .stops e := by
  cases hnode : fs.node here with
  | directory entries => exact absurd hnode (h entries)
  | sealedDirectory =>
    cases piece with
    | nil => exact .inl ⟨rfl, rfl, by simp [stepPiece, hnode]⟩
    | cons c piece => exact .inr ⟨.permissionDenied, by simp [stepPiece, hnode]⟩
  | _ => exact .inr ⟨.notDirectory, by simp [stepPiece, hnode]⟩

/-- What a piece can do at a place, in short. -/
theorem stepPiece_cases (fs : FileSystem) (here : Trail) (piece : Name) :
    fs.stepPiece here piece = .goes here ∨ fs.stepPiece here piece = .goes here.tail ∨
    (∃ e, fs.stepPiece here piece = .stops e) ∨
    ∃ entries, fs.node here = .directory entries ∧
      fs.stepPiece here piece = entryStep here piece (FileTree.child? entries piece) := by
  by_cases hdirectory : ∃ entries, fs.node here = .directory entries
  · obtain ⟨entries, hnode⟩ := hdirectory
    rcases stepPiece_directory_cases piece with hstay | hup | hlong | ⟨-, -, -, hname⟩
    · exact .inl (hstay fs here entries hnode)
    · exact .inr (.inl (hup fs here entries hnode))
    · exact .inr (.inr (.inl ⟨_, hlong fs here entries hnode⟩))
    · exact .inr (.inr (.inr ⟨entries, hnode, hname fs here entries hnode⟩))
  · rcases stepPiece_of_not_directory (not_exists.1 hdirectory) piece with ⟨-, -, hstay⟩ | hstops
    · exact .inl hstay
    · exact .inr (.inr (.inl hstops))

/-- A piece that leads on stays, goes up, or goes to an entry that is no link. -/
theorem stepPiece_goes {here next : Trail} {piece : Name}
    (h : fs.stepPiece here piece = .goes next) :
    next = here ∨ next = here.tail ∨ ∃ entries t, fs.node here = .directory entries ∧
      FileTree.child? entries piece = some t ∧ t.IsSolid ∧ next = (piece, t) :: here := by
  rcases fs.stepPiece_cases here piece with hstay | hup | ⟨e, hstops⟩ | ⟨entries, hnode, hentry⟩
  · exact .inl (PieceStep.goes.inj (h.symm.trans hstay))
  · exact .inr (.inl (PieceStep.goes.inj (h.symm.trans hup)))
  · simp [hstops] at h
  · rcases entryStep_cases here piece (FileTree.child? entries piece) with ⟨-, hfree⟩ |
      ⟨target, -, hcross⟩ | ⟨t, hchild, ht, hgoes⟩
    · simp [hentry, hfree] at h
    · simp [hentry, hcross] at h
    · rw [hentry, hgoes] at h
      exact .inr (.inr ⟨entries, t, hnode, hchild, ht, (PieceStep.goes.inj h).symm⟩)

/-- A link leads on from the root or from the directory that holds it. -/
theorem stepPiece_crosses {here start : Trail} {piece : Name} {pieces : List Name}
    (h : fs.stepPiece here piece = .crosses start pieces) :
    (start = [] ∨ start = here) ∧ ∃ entries target, fs.node here = .directory entries ∧
      FileTree.child? entries piece = some (.link target) := by
  rcases fs.stepPiece_cases here piece with hstay | hup | ⟨e, hstops⟩ | ⟨entries, hnode, hentry⟩
  · simp [hstay] at h
  · simp [hup] at h
  · simp [hstops] at h
  · rcases entryStep_cases here piece (FileTree.child? entries piece) with ⟨-, hfree⟩ |
      ⟨target, hchild, hcross⟩ | ⟨t, -, -, hgoes⟩
    · simp [hentry, hfree] at h
    · rw [hentry, hcross] at h
      obtain ⟨rfl, -⟩ := PieceStep.crosses.inj h
      refine ⟨?_, entries, target, hnode, hchild⟩
      split <;> simp
    · simp [hentry, hgoes] at h

/-- A free name is one that the directory does not have. -/
theorem stepPiece_free {here : Trail} {piece name : Name}
    (h : fs.stepPiece here piece = .free name) :
    name = piece ∧ ∃ entries, fs.node here = .directory entries ∧
      FileTree.child? entries piece = none := by
  rcases fs.stepPiece_cases here piece with hstay | hup | ⟨e, hstops⟩ | ⟨entries, hnode, hentry⟩
  · simp [hstay] at h
  · simp [hup] at h
  · simp [hstops] at h
  · rcases entryStep_cases here piece (FileTree.child? entries piece) with ⟨hchild, hfree⟩ |
      ⟨target, -, hcross⟩ | ⟨t, -, -, hgoes⟩
    · rw [hentry, hfree] at h
      exact ⟨(PieceStep.free.inj h).symm, entries, hnode, hchild⟩
    · simp [hentry, hcross] at h
    · simp [hentry, hgoes] at h

/-- A step leads along trails. -/
theorem leads_of_goes {here next : Trail} {piece : Name} (h : fs.Leads here)
    (hstep : fs.stepPiece here piece = .goes next) : fs.Leads next := by
  -- The place stays, the last entry goes, or an entry of the directory is added.
  rcases stepPiece_goes hstep with rfl | rfl | ⟨entries, t, hnode, hchild, ht, rfl⟩
  · exact h
  · exact h.tail
  · exact ⟨h, ht, entries, hnode, hchild⟩

theorem leads_of_crosses {here start : Trail} {piece : Name} {pieces : List Name}
    (h : fs.Leads here) (hstep : fs.stepPiece here piece = .crosses start pieces) :
    fs.Leads start := by
  rcases (stepPiece_crosses hstep).1 with rfl | rfl
  · trivial
  · exact h

/-! ## Following a path -/

/-- What a path may lead to: a trail through directories, or a free name in the directory at the end
of one. -/
def Reaches (fs : FileSystem) : Found → Prop
  | .present trail => fs.Leads trail
  | .vacant here name =>
    fs.Leads here ∧ ∃ entries, fs.node here = .directory entries ∧
      FileTree.child? entries name = none

section Following

variable {cross : Trail → List Name → Except FileError Found}

/-- Pieces lead to what a path may lead to, if going on behind links does. -/
theorem followPieces_reaches
    (hcross : ∀ start pieces found, fs.Leads start → cross start pieces = .ok found →
      fs.Reaches found)
    {pieces : List Name} {here : Trail} {found : Found} (h : fs.Leads here)
    (hfollow : fs.followPieces cross here pieces = .ok found) : fs.Reaches found := by
  induction pieces generalizing here with
  | nil =>
    obtain rfl : Found.present here = found := Except.ok.inj hfollow
    exact h
  | cons piece rest ih =>
    cases hstep : fs.stepPiece here piece with
    | goes next =>
      rw [followPieces, hstep] at hfollow
      exact ih (leads_of_goes h hstep) hfollow
    | crosses start more =>
      rw [followPieces, hstep] at hfollow
      exact hcross _ _ _ (leads_of_crosses h hstep) hfollow
    | free name =>
      obtain ⟨rfl, entries, hnode, hchild⟩ := stepPiece_free hstep
      simp only [followPieces, hstep] at hfollow
      split at hfollow
      · obtain rfl : Found.vacant here name = found := Except.ok.inj hfollow
        exact ⟨h, entries, hnode, hchild⟩
      · simp at hfollow
    | stops e => simp [followPieces, hstep] at hfollow

/-- What the last piece of a path comes to is told by where the pieces before it lead. -/
theorem followPieces_append {trail : Trail} {name : Name} {result : Except FileError Found}
    (hcross : ∀ start pieces, cross start pieces = .ok (.present trail) →
      cross start (pieces ++ [name]) = result)
    (hlast : fs.followPieces cross trail [name] = result) {pieces : List Name} {here : Trail}
    (hfollow : fs.followPieces cross here pieces = .ok (.present trail)) :
    fs.followPieces cross here (pieces ++ [name]) = result := by
  induction pieces generalizing here with
  | nil =>
    simp only [followPieces, Except.ok.injEq, Found.present.injEq] at hfollow
    subst hfollow
    exact hlast
  | cons piece rest ih =>
    cases hstep : fs.stepPiece here piece with
    | goes next =>
      rw [followPieces, hstep] at hfollow
      simpa [followPieces, hstep] using ih hfollow
    | crosses start more =>
      rw [followPieces, hstep] at hfollow
      simpa [followPieces, hstep] using hcross _ _ hfollow
    | free name =>
      simp only [followPieces, hstep] at hfollow
      split at hfollow <;> simp at hfollow
    | stops e => simp [followPieces, hstep] at hfollow

end Following

/-- With links followed pieces lead to what a path may lead to. -/
theorem followLinks_reaches {n : Nat} {pieces : List Name} {here : Trail} {found : Found}
    (h : fs.Leads here) (hfollow : fs.followLinks n here pieces = .ok found) :
    fs.Reaches found := by
  -- With no link left, crossing fails; otherwise one link is used up.
  induction n generalizing here pieces found with
  | zero => exact followPieces_reaches (fun _ _ _ _ hbad => by simp at hbad) h hfollow
  | succ n ih => exact followPieces_reaches (fun _ _ _ hstart hmore => ih hstart hmore) h hfollow

/-- A name behind some pieces is followed from where they lead. -/
theorem followLinks_append {n : Nat} {pieces : List Name} {here trail : Trail} {name : Name}
    {result : Except FileError Found} (hlast : ∀ n, fs.followLinks n trail [name] = result)
    (hfollow : fs.followLinks n here pieces = .ok (.present trail)) :
    fs.followLinks n here (pieces ++ [name]) = result := by
  induction n generalizing here pieces with
  | zero => exact followPieces_append (fun _ _ hbad => by simp at hbad) (hlast 0) hfollow
  | succ n ih => exact followPieces_append (fun _ _ hmore => ih hmore) (hlast (n + 1)) hfollow

theorem followLinks_of_goes {trail next : Trail} {name : Name}
    (hstep : fs.stepPiece trail name = .goes next) (n : Nat) :
    fs.followLinks n trail [name] = .ok (.present next) := by
  cases n <;> simp [followLinks, followPieces, hstep]

theorem followLinks_of_free {trail : Trail} {piece name : Name}
    (hstep : fs.stepPiece trail piece = .free name) (n : Nat) :
    fs.followLinks n trail [piece] = .ok (.vacant trail name) := by
  cases n <;> simp [followLinks, followPieces, hstep, atEnd]

/-- Locating is finding something that is there. -/
theorem locate_eq_ok_iff {current t : Trail} {p : Path} :
    fs.locate current p = .ok t ↔ fs.find current p = .ok (.present t) := by
  simp only [locate]
  split <;> simp_all

/-- A path is followed to a trail through directories, or to a free name. -/
theorem find_reaches {current : Trail} {p : Path} {found : Found} (h : fs.Leads current)
    (hfind : fs.find current p = .ok found) : fs.Reaches found := by
  rw [find] at hfind
  split at hfind
  · simp at hfind
  · split at hfind
    · simp at hfind
    · refine followLinks_reaches ?_ hfind
      split
      · trivial
      · exact h

/-- A path that leads somewhere gives a trail through directories. -/
theorem locate_leads {current t : Trail} {p : Path} (h : fs.Leads current)
    (hlocate : fs.locate current p = .ok t) : fs.Leads t :=
  find_reaches h (locate_eq_ok_iff.1 hlocate)

/-- A path of a location is followed from the root. -/
theorem find_ofLocation {current : Trail} {l : Location} (h : '\x00' ∉ (Path.ofLocation l).text) :
    fs.find current (.ofLocation l) = fs.followLinks maxLinks [] (Path.ofLocation l).pieces := by
  simp [find, h, Path.isEmpty_text_ofLocation, Path.isAbsolute_ofLocation]

theorem zero_not_mem_of_locate {current t : Trail} {p : Path} (h : fs.locate current p = .ok t) :
    '\x00' ∉ p.text := by
  intro hzero
  rw [locate_eq_ok_iff] at h
  simp [find, hzero] at h

/-- What stands for a location in a path is followed as the path of the location itself. -/
theorem followLinks_leadingPieces (n : Nat) (l : Location) :
    fs.followLinks n [] (Path.leadingPieces l)
      = fs.followLinks n [] (Path.ofLocation l).pieces := by
  cases l with
  | cons first rest => simp [Path.leadingPieces]
  | nil =>
    -- The path of the root is a slash between two empty pieces, and neither leads anywhere.
    have hstay : fs.stepPiece [] [] = .goes [] := rfl
    have hpieces : (Path.ofLocation []).pieces = [[], []] := by decide
    cases n <;> simp [followLinks, Path.leadingPieces, hpieces, followPieces, hstay]

/-- What the path of an entry comes to is told by its directory, unless the entry is a link. -/
theorem find_append {l : Location} {trail : Trail} {name : Name} {result : Except FileError Found}
    (hname : name.IsProper) (hlocate : fs.locate [] (.ofLocation l) = .ok trail)
    (hlast : ∀ n, fs.followLinks n trail [name] = result) :
    fs.find [] (.ofLocation (l ++ [name])) = result := by
  have hzero := zero_not_mem_of_locate hlocate
  rw [locate_eq_ok_iff, find_ofLocation hzero] at hlocate
  rw [find_ofLocation (Path.zero_not_mem_text_ofLocation_append hzero hname),
    Path.pieces_ofLocation_append l hname]
  refine followLinks_append hlast ?_
  rw [followLinks_leadingPieces, hlocate]

/-- The path of an entry leads one step further than that of its directory. -/
theorem locate_append {l : Location} {trail next : Trail} {name : Name} (hname : name.IsProper)
    (hlocate : fs.locate [] (.ofLocation l) = .ok trail)
    (hlast : fs.stepPiece trail name = .goes next) :
    fs.locate [] (.ofLocation (l ++ [name])) = .ok next := by
  rw [locate_eq_ok_iff]
  exact find_append hname hlocate (followLinks_of_goes hlast)

/-- A proper name leads to the entry that has it, unless this is a link. -/
theorem stepPiece_of_child? {trail : Trail} {entries : List (Name × FileTree)} {name : Name}
    {t : FileTree} (hname : name.IsProper) (hnode : fs.node trail = .directory entries)
    (hchild : FileTree.child? entries name = some t) (ht : t.IsSolid) :
    fs.stepPiece trail name = .goes ((name, t) :: trail) := by
  rw [stepPiece_eq_entryStep hnode hname.not_idle hname.ne_parent hname.short, hchild,
    entryStep_solid ht]

theorem stepPiece_of_no_child {trail : Trail} {entries : List (Name × FileTree)} {name : Name}
    (hname : name.IsProper) (hnode : fs.node trail = .directory entries)
    (hchild : FileTree.child? entries name = none) : fs.stepPiece trail name = .free name := by
  rw [stepPiece_eq_entryStep hnode hname.not_idle hname.ne_parent hname.short, hchild]
  rfl

end FileSystem

/-! ## What is at a location -/

namespace FileTree

/-- Going along names and then further ones is going along all of them. -/
theorem at?_append (t : FileTree) (l rest : Location) :
    t.at? (l ++ rest) = (t.at? l).bind fun u => u.at? rest := by
  induction l generalizing t with
  | nil => rfl
  | cons name l ih => simp [at?, ih, Option.bind_assoc]

theorem at?_directory_cons (entries : List (Name × FileTree)) (name : Name) (rest : Location) :
    (directory entries).at? (name :: rest)
      = (child? entries name).bind fun u => u.at? rest := rfl

/-- What is at a location below a directory is at or below the entry with the first name. -/
theorem at?_directory_cons_eq_some {entries : List (Name × FileTree)} {name : Name}
    {rest : Location} {t : FileTree} (h : (directory entries).at? (name :: rest) = some t) :
    ∃ u, child? entries name = some u ∧ u.at? rest = some t := by
  rw [at?_directory_cons, Option.bind_eq_some_iff] at h
  exact h

end FileTree

namespace FileSystem

variable {fs : FileSystem}

/-- The location that a path leads to, with all links followed. -/
def place? (fs : FileSystem) (p : Path) : Option Location :=
  (fs.locate [] p).toOption.map Trail.location

/-- The location of a path is that of the place that it leads to. -/
theorem place?_of_locate {p : Path} {trail : Trail} (h : fs.locate [] p = .ok trail) :
    fs.place? p = some trail.location := by
  simp [place?, h, Except.toOption]

/-- What is at the location of a trail is what the trail leads to. -/
theorem Leads.at?_location {trail : Trail} (h : fs.Leads trail) :
    fs.at? trail.location = some (fs.node trail) := by
  induction trail with
  | nil => rfl
  | cons e here ih =>
    obtain ⟨hhere, _, entries, hnode, hchild⟩ := h
    have hparent := ih hhere
    rw [Trail.location_cons, at?, FileTree.at?_append, ← at?, hparent, hnode]
    simp [FileTree.at?, FileTree.entries?, hchild, node]

/-- Where no link is on the way, names lead where they say. -/
theorem locate_of_at? (hfs : fs.WellFormed) {names : Location} {l : Location} {trail : Trail}
    {t : FileTree} (hlocate : fs.locate [] (.ofLocation l) = .ok trail)
    (hat : (fs.node trail).at? names = some t) (ht : t.IsSolid) :
    ∃ next, fs.locate [] (.ofLocation (l ++ names)) = .ok next ∧
      next.location = trail.location ++ names := by
  induction names generalizing l trail with
  | nil => exact ⟨trail, by simpa using hlocate, by simp⟩
  | cons name rest ih =>
    have hwell := (locate_leads (by trivial) hlocate).wellFormed_node hfs
    simp only [FileTree.at?, Option.bind_eq_some_iff] at hat
    obtain ⟨entries, hentries, u, hchild, hrest⟩ := hat
    have hnode : fs.node trail = .directory entries := by
      cases hnode : fs.node trail with
      | directory es => simpa [FileTree.entries?, hnode] using hentries
      | _ => simp [FileTree.entries?, hnode] at hentries
    -- A link on the way would have no entries, and the last name is none.
    have hu : u.IsSolid := by
      cases u with
      | link target =>
        cases rest with
        | nil =>
          obtain rfl : FileTree.link target = t := by simpa [FileTree.at?] using hrest
          exact ht
        | cons next rest => simp [FileTree.at?, FileTree.entries?] at hrest
      | _ => trivial
    rw [hnode, FileTree.wellFormed_directory_iff] at hwell
    have hproper := (hwell.2 _ (FileTree.mem_of_child? hchild)).1
    have hnext := locate_append hproper hlocate (stepPiece_of_child? hproper hnode hchild hu)
    obtain ⟨last, hlast, hlocation⟩ := ih hnext hrest
    refine ⟨last, by simpa using hlast, ?_⟩
    rw [hlocation, Trail.location_cons]
    simp

end FileSystem

/-! ## The locations of directories -/

mutual

def FileTree.directoryPlaces (l : Location) : FileTree → List Location
  | .directory entries => l :: FileTree.entriesPlaces l entries
  | _ => []

def FileTree.entriesPlaces (l : Location) : List (Name × FileTree) → List Location
  | [] => []
  | (name, t) :: rest =>
    FileTree.directoryPlaces (l ++ [name]) t ++ FileTree.entriesPlaces l rest

end

mutual

/-- Each directory of a tree has one place. -/
theorem FileTree.length_directoryPlaces (l : Location) :
    ∀ t : FileTree, (directoryPlaces l t).length = t.countDirectories
  | .directory entries => by
    simp [directoryPlaces, countDirectories, FileTree.length_entriesPlaces l entries]
  | .file _ | .sealedFile _ | .sealedDirectory | .link _ => by
    simp [directoryPlaces, countDirectories]

theorem FileTree.length_entriesPlaces (l : Location) :
    ∀ entries, (entriesPlaces l entries).length = entriesDirectories entries
  | [] => by simp [entriesPlaces, entriesDirectories]
  | (name, t) :: rest => by
    simp [entriesPlaces, entriesDirectories, FileTree.length_directoryPlaces (l ++ [name]) t,
      FileTree.length_entriesPlaces l rest]

end

theorem FileTree.directoryPlaces_subset_entriesPlaces {l : Location}
    {entries : List (Name × FileTree)} {name : Name} {t : FileTree} (h : (name, t) ∈ entries) :
    directoryPlaces (l ++ [name]) t ⊆ entriesPlaces l entries := by
  induction entries with
  | nil => simp at h
  | cons e rest ih =>
    rcases List.mem_cons.1 h with rfl | h
    · exact List.subset_append_left _ _
    · exact List.subset_append_of_subset_right _ (ih h)

namespace FileSystem

variable {fs : FileSystem}

def directoryPlaces (fs : FileSystem) : List Location :=
  FileTree.directoryPlaces [] (.directory fs.entries)

theorem Leads.directoryPlaces_subset {trail : Trail} (h : fs.Leads trail) :
    FileTree.directoryPlaces trail.location (fs.node trail) ⊆ fs.directoryPlaces := by
  induction trail with
  | nil => exact List.Subset.refl _
  | cons e here ih =>
    obtain ⟨hhere, -, entries, hnode, hchild⟩ := h
    have hinner := FileTree.directoryPlaces_subset_entriesPlaces (l := Trail.location here)
      (FileTree.mem_of_child? hchild)
    have houter := ih hhere
    rw [hnode, FileTree.directoryPlaces] at houter
    rw [Trail.location_cons]
    exact fun m hm => houter (List.mem_cons_of_mem _ (hinner hm))

/-- The location of a directory that is led to is among those of all directories. -/
theorem Leads.location_mem {trail : Trail} {entries : List (Name × FileTree)} (h : fs.Leads trail)
    (hnode : fs.node trail = .directory entries) : trail.location ∈ fs.directoryPlaces := by
  have hsubset := h.directoryPlaces_subset
  rw [hnode, FileTree.directoryPlaces] at hsubset
  exact hsubset (by simp)

end FileSystem

end CodeAtlas
