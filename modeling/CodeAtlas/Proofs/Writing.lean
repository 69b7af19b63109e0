import CodeAtlas.Proofs.Edits
import CodeAtlas.Proofs.Opening

/-!
# Writing a file

A file that is written changes what is at the locations of its names, and nothing else.

- `FileTree.Admits`: locations where a file may be put: free names, and those of files.
- `FileTree.WellFormed.putAt`: directories stay well formed.
- `FileSystem.Wrote`: a file system before and after a file is written.
- `FileSystem.Wrote.append`: a file that is written under some names, and then under others.
- `FileSystem.wrote_putEach`, `FileSystem.wrote_allNames`: putting the file changes nothing else.
- `FileSystem.write_eq_ok`: a write that succeeds puts the file where its path leads to.
-/

namespace CodeAtlas

/-! ## Putting a file into a tree -/

namespace FileTree

/-- What shows of a tree from outside: of a directory, none of its entries. -/
def surface : FileTree → FileTree
  | directory _ => directory []
  | t => t

theorem surface_eq_link {t : FileTree} {target : Path} :
    t.surface = link target ↔ t = link target := by
  cases t <;> simp [surface]

/-- The locations below a directory where a file may be put: the way there leads through
directories, and the last name is free or that of a file. -/
def Admits (entries : List (Name × FileTree)) : Location → Prop
  | [] => False
  | [name] => ∀ t, child? entries name = some t → ∃ bytes, t = file bytes
  | name :: next :: rest =>
    ∃ inner, child? entries name = some (directory inner) ∧ Admits inner (next :: rest)

variable {entries : List (Name × FileTree)} {l : Location}

/-- A name in a directory that is free or that of a file. -/
theorem admits_append {above : Location} {name : Name} {es : List (Name × FileTree)}
    (habove : (directory entries).at? above = some (directory es))
    (hname : ∀ t, child? es name = some t → ∃ bytes, t = file bytes) :
    Admits entries (above ++ [name]) := by
  induction above generalizing entries with
  | nil =>
    obtain rfl : entries = es := directory.inj (Option.some.inj habove)
    exact hname
  | cons first above ih =>
    obtain ⟨u, hchild, hu⟩ := at?_directory_cons_eq_some habove
    cases u with
    | directory inner =>
      have hinner := ih hu
      cases above with
      | nil => exact ⟨inner, hchild, hinner⟩
      | cons next above => exact ⟨inner, hchild, hinner⟩
    | _ => cases above <;> simp [at?, entries?] at hu

theorem Admits.file_of_at? (h : Admits entries l) {t : FileTree}
    (hat : (directory entries).at? l = some t) : ∃ bytes, t = file bytes := by
  induction l generalizing entries with
  | nil => exact h.elim
  | cons name rest ih =>
    obtain ⟨u, hchild, hu⟩ := at?_directory_cons_eq_some hat
    cases rest with
    | nil =>
      obtain rfl : u = t := Option.some.inj hu
      exact h u hchild
    | cons next rest =>
      obtain ⟨inner, hinner, hdeeper⟩ := h
      obtain rfl : directory inner = u := Option.some.inj (hinner.symm.trans hchild)
      exact ih hdeeper hu

/-- Where there is a file already, another one may be put. -/
theorem admits_of_file {bytes : Bytes} (h : (directory entries).at? l = some (file bytes)) :
    Admits entries l := by
  induction l generalizing entries with
  | nil => simp [at?] at h
  | cons name rest ih =>
    cases rest with
    | nil =>
      obtain ⟨u, hchild, hu⟩ := at?_directory_cons_eq_some h
      obtain rfl : u = file bytes := Option.some.inj hu
      intro t ht
      exact ⟨bytes, Option.some.inj (ht.symm.trans hchild)⟩
    | cons next rest =>
      obtain ⟨inner, hchild, hinner⟩ := child?_of_at? h
      exact ⟨inner, hchild, ih hinner⟩

/-- A file that is put below a directory is put into the directory with the first name. -/
theorem Admits.descend {first : Name} {rest : Location} (h : Admits entries (first :: rest))
    (hne : rest ≠ []) : ∃ inner, child? entries first = some (directory inner) ∧ Admits inner rest ∧
      ∀ t, putAt entries (first :: rest) t
        = putEntry entries first (directory (putAt inner rest t)) := by
  obtain ⟨next, rest, rfl⟩ := List.exists_cons_of_ne_nil hne
  obtain ⟨inner, hchild, hinner⟩ := h
  exact ⟨inner, hchild, hinner, putAt_cons_cons hchild⟩

/-- What was put at a place is there. -/
theorem Admits.at?_putAt_self (h : Admits entries l) (t : FileTree) :
    (directory (putAt entries l t)).at? l = some t := by
  induction l generalizing entries with
  | nil => exact h.elim
  | cons name rest ih =>
    cases rest with
    | nil => rw [putAt, at?_directory_cons, child?_putEntry, if_pos rfl]; rfl
    | cons next rest =>
      obtain ⟨inner, hinner, hdeeper⟩ := h
      rw [putAt_cons_cons hinner, at?_directory_cons, child?_putEntry, if_pos rfl]
      exact ih hdeeper

/-- At all other locations the same shows after a file was put at one that admits it. -/
theorem Admits.surface_at?_putAt (h : Admits entries l) (bytes : Bytes) {m : Location}
    (hne : m ≠ l) : ((directory (putAt entries l (file bytes))).at? m).map surface
      = ((directory entries).at? m).map surface := by
  induction l generalizing entries m with
  | nil => exact h.elim
  | cons name rest ih =>
    cases m with
    | nil => rfl
    | cons other below =>
      cases rest with
      -- The file is an entry of this directory, or lies below one of them.
      | nil =>
        rw [putAt, at?_directory_cons, at?_directory_cons, child?_putEntry]
        by_cases hother : other = name
        · -- The name itself is another location, so that it is looked below a file.
          subst hother
          cases below with
          | nil => exact absurd rfl hne
          | cons next below =>
            rw [if_pos rfl, Option.bind_some, IsFile.at?_cons (t := file bytes) trivial]
            cases hchild : child? entries other with
            | none => rfl
            | some t =>
              obtain ⟨old, rfl⟩ := h t hchild
              rfl
        · rw [if_neg hother]
      | cons next rest =>
        obtain ⟨inner, hinner, hdeeper⟩ := h
        rw [putAt_cons_cons hinner, at?_directory_cons, at?_directory_cons, child?_putEntry]
        by_cases hother : other = name
        · subst hother
          have hrest : below ≠ next :: rest := fun heq => hne (heq ▸ rfl)
          rw [if_pos rfl, hinner, Option.bind_some, Option.bind_some]
          exact ih hdeeper hrest
        · rw [if_neg hother]

/-- What is there already can be put there without any change. -/
theorem putEntry_of_child? {name : Name} {t : FileTree} (h : child? entries name = some t) :
    putEntry entries name t = entries := by
  induction entries with
  | nil => simp [child?] at h
  | cons e rest ih =>
    obtain ⟨first, old⟩ := e
    rw [child?_cons] at h
    by_cases hfirst : first = name
    · obtain rfl : old = t := by simpa [hfirst] using h
      simp [putEntry, hfirst]
    · have hrest : child? rest name = some t := by simpa [hfirst] using h
      simp [putEntry, hfirst, ih hrest]

/-- Putting what is there changes nothing. -/
theorem putAt_of_at? {t : FileTree} (h : (directory entries).at? l = some t) :
    putAt entries l t = entries := by
  induction l generalizing entries with
  | nil => rfl
  | cons name rest ih =>
    cases rest with
    | nil =>
      obtain ⟨u, hchild, hu⟩ := at?_directory_cons_eq_some h
      obtain rfl : u = t := Option.some.inj hu
      exact putEntry_of_child? hchild
    | cons next rest =>
      obtain ⟨inner, hchild, hdeeper⟩ := child?_of_at? h
      rw [putAt_cons_cons hchild, ih hdeeper, putEntry_of_child? hchild]

/-! ## Well-formed directories -/

theorem mem_putEntry {name : Name} {t : FileTree} {e : Name × FileTree}
    (h : e ∈ putEntry entries name t) : e = (name, t) ∨ e ∈ entries := by
  induction entries with
  | nil => exact .inl (List.mem_singleton.1 h)
  | cons first rest ih =>
    rw [putEntry] at h
    split at h
    · rename_i hname
      rw [beq_iff_eq.1 hname] at h
      exact (List.mem_cons.1 h).imp_right (List.mem_cons_of_mem _)
    · rcases List.mem_cons.1 h with rfl | h
      · exact .inr List.mem_cons_self
      · exact (ih h).imp_right (List.mem_cons_of_mem _)

/-- Putting an entry repeats no name. -/
theorem nodup_putEntry (h : (entries.map (·.1)).Nodup) (name : Name) (t : FileTree) :
    ((putEntry entries name t).map (·.1)).Nodup := by
  induction entries with
  | nil => exact List.nodup_singleton _
  | cons first rest ih =>
    obtain ⟨hfirst, hrest⟩ := List.nodup_cons.1 h
    rw [putEntry]
    split
    · exact h
    · rename_i hname
      refine List.nodup_cons.2 ⟨fun hmem => ?_, ih hrest⟩
      -- The name that was put is not the first one, and the others were there.
      obtain ⟨e, he, heq⟩ := List.mem_map.1 hmem
      rcases mem_putEntry he with rfl | he
      · exact hname (beq_iff_eq.2 heq.symm)
      · exact hfirst (List.mem_map.2 ⟨e, he, heq⟩)

/-- Putting a well-formed tree under a proper name keeps a directory well formed. -/
theorem WellFormed.putEntry {name : Name} {t : FileTree} (h : (directory entries).WellFormed)
    (hname : name.IsProper) (ht : t.WellFormed) :
    (directory (putEntry entries name t)).WellFormed := by
  obtain ⟨hnodup, hall⟩ := wellFormed_directory_iff.1 h
  refine wellFormed_directory_iff.2 ⟨nodup_putEntry hnodup name t, fun e he => ?_⟩
  rcases mem_putEntry he with rfl | he
  · exact ⟨hname, ht⟩
  · exact hall e he

/-- Directories stay well formed if a file with a proper name is put into one of them. -/
theorem WellFormed.putAt {above : Location} {name : Name} (h : (directory entries).WellFormed)
    (hname : name.IsProper) (hadmits : Admits entries (above ++ [name])) (bytes : Bytes) :
    (directory (putAt entries (above ++ [name]) (file bytes))).WellFormed := by
  induction above generalizing entries with
  | nil => exact h.putEntry hname trivial
  | cons first above ih =>
    rw [List.cons_append] at hadmits ⊢
    obtain ⟨inner, hchild, hinner, hput⟩ := hadmits.descend (by simp)
    have hmem := (wellFormed_directory_iff.1 h).2 _ (mem_of_child? hchild)
    rw [hput]
    exact h.putEntry hmem.1 (ih hmem.2 hinner)

/-- A name in well-formed directories is proper. -/
theorem WellFormed.isProper_of_at? {above : Location} {name : Name} {t : FileTree}
    (h : (directory entries).WellFormed)
    (hat : (directory entries).at? (above ++ [name]) = some t) : name.IsProper := by
  induction above generalizing entries with
  | nil =>
    obtain ⟨u, hchild, -⟩ := at?_directory_cons_eq_some hat
    exact ((wellFormed_directory_iff.1 h).2 _ (mem_of_child? hchild)).1
  | cons first above ih =>
    obtain ⟨u, hchild, hu⟩ := at?_directory_cons_eq_some hat
    have hmem := (wellFormed_directory_iff.1 h).2 _ (mem_of_child? hchild)
    cases u with
    | directory inner => exact ih hmem.2 hu
    | _ => cases above <;> simp [at?, entries?] at hu

end FileTree

/-! ## Writing under several names -/

namespace FileSystem

variable {fs fs' fs'' : FileSystem} {names more : List Location} {l : Location} {bytes : Bytes}

/-- `fs'` is `fs` after a file was written under some names that were free, or those of files.
Everywhere else the same shows before and after, and files have the names that they had. -/
structure Wrote (fs fs' : FileSystem) (names : List Location) (bytes : Bytes) : Prop where
  before : ∀ m ∈ names, ∀ t, fs.at? m = some t → ∃ old, t = .file old
  after : ∀ m ∈ names, fs'.at? m = some (.file bytes)
  elsewhere : ∀ m, m ∉ names → (fs'.at? m).map FileTree.surface = (fs.at? m).map FileTree.surface
  hardLinks : fs'.hardLinks = fs.hardLinks

theorem wrote_nil (fs : FileSystem) (bytes : Bytes) : fs.Wrote fs [] bytes where
  before _ hm := absurd hm List.not_mem_nil
  after _ hm := absurd hm List.not_mem_nil
  elsewhere _ _ := rfl
  hardLinks := rfl

/-- Putting a file writes it under a single name. -/
theorem wrote_put (h : FileTree.Admits fs.entries l) (bytes : Bytes) :
    fs.Wrote (fs.put l (.file bytes)) [l] bytes where
  before _ hm _ hat := h.file_of_at? (List.mem_singleton.1 hm ▸ hat)
  after _ hm := List.mem_singleton.1 hm ▸ h.at?_putAt_self _
  elsewhere _ hm := h.surface_at?_putAt bytes (List.mem_singleton.not.1 hm)
  hardLinks := rfl

/-- A file shows from outside as it is. -/
theorem at?_eq_file_of_surface {o : Option FileTree}
    (h : o.map FileTree.surface = some (.file bytes)) : o = some (.file bytes) := by
  obtain ⟨t, rfl, ht⟩ := Option.map_eq_some_iff.1 h
  cases t <;> simp_all [FileTree.surface]

/-- Files are still files. -/
theorem Wrote.at?_file (h : fs.Wrote fs' names bytes) {m : Location} {old : Bytes}
    (hat : fs.at? m = some (.file old)) : ∃ new, fs'.at? m = some (.file new) := by
  by_cases hm : m ∈ names
  · exact ⟨bytes, h.after m hm⟩
  · refine ⟨old, at?_eq_file_of_surface ?_⟩
    rw [h.elsewhere m hm, hat]
    rfl

/-- And nothing else has become a file. -/
theorem Wrote.file_of_at? (h : fs.Wrote fs' names bytes) {m : Location} (hm : m ∉ names)
    {new : Bytes} (hat : fs'.at? m = some (.file new)) : fs.at? m = some (.file new) := by
  refine at?_eq_file_of_surface ?_
  rw [← h.elsewhere m hm, hat]
  rfl

/-- A file that was written under some names and then under others was written under all of them. -/
theorem Wrote.append (h : fs.Wrote fs' names bytes) (h' : fs'.Wrote fs'' more bytes) :
    fs.Wrote fs'' (names ++ more) bytes where
  before m hm t hat := by
    by_cases hfirst : m ∈ names
    · exact h.before m hfirst t hat
    · -- The first writing left this place as it shows, and what shows as a file is one.
      have hmore := (List.mem_append.1 hm).resolve_left hfirst
      have hshows := h.elsewhere m hfirst
      rw [hat, Option.map_some, Option.map_eq_some_iff] at hshows
      obtain ⟨u, hu, hsurface⟩ := hshows
      obtain ⟨old, rfl⟩ := h'.before m hmore u hu
      cases t <;> simp_all [FileTree.surface]
  after m hm := by
    by_cases hmore : m ∈ more
    · exact h'.after m hmore
    · -- The second writing does not touch what the first one put.
      have hfirst := (List.mem_append.1 hm).resolve_right hmore
      refine at?_eq_file_of_surface ?_
      rw [h'.elsewhere m hmore, h.after m hfirst]
      rfl
  elsewhere m hm := by
    obtain ⟨hfirst, hmore⟩ := not_or.1 (List.mem_append.not.1 hm)
    rw [h'.elsewhere m hmore, h.elsewhere m hfirst]
  hardLinks := h'.hardLinks.trans h.hardLinks

/-- Files that get other bytes are written. -/
theorem wrote_putEach (bytes : Bytes) {names : List Location}
    (h : ∀ m ∈ names, ∃ old, fs.at? m = some (.file old)) :
    fs.Wrote (fs.putEach bytes names) names bytes := by
  induction names generalizing fs with
  | nil => exact fs.wrote_nil bytes
  | cons l rest ih =>
    obtain ⟨old, hold⟩ := h l List.mem_cons_self
    have hput := wrote_put (FileTree.admits_of_file hold) bytes
    refine hput.append (ih fun m hm => ?_)
    obtain ⟨first, hfirst⟩ := h m (List.mem_cons_of_mem l hm)
    exact hput.at?_file hfirst

/-- The other names are those in the same group at which there is a file. -/
theorem mem_otherNames {m : Location} : m ∈ fs.otherNames l ↔
    m ∈ (fs.hardLinks.find? (·.contains l)).getD [] ∧ m ≠ l ∧
      ∃ old, fs.at? m = some (.file old) := by
  have hfile : ((fs.at? m).bind FileTree.bytes?).isSome ↔ ∃ old, fs.at? m = some (.file old) := by
    cases hat : fs.at? m with
    | none => simp
    | some t => cases t <;> simp [FileTree.bytes?]
  simp only [otherNames, List.mem_filter, Bool.and_eq_true, hfile, bne_iff_ne]

/-- A file that is put where one is admitted, and where its other names are, is written. -/
theorem wrote_allNames (h : FileTree.Admits fs.entries l) (bytes : Bytes) :
    fs.Wrote (fs.putEach bytes (fs.allNames l)) (fs.allNames l) bytes := by
  have hput := wrote_put h bytes
  refine hput.append (wrote_putEach bytes fun m hm => ?_)
  obtain ⟨-, -, old, hold⟩ := mem_otherNames.1 hm
  exact hput.at?_file hold

/-- After a file was written, it has no names that it did not have before. -/
theorem Wrote.allNames_subset (h : fs.Wrote fs' (fs.allNames l) bytes) :
    fs'.allNames l ⊆ fs.allNames l := by
  intro m hm
  by_contra hnot
  rcases List.mem_cons.1 hm with rfl | hother
  · exact hnot List.mem_cons_self
  · obtain ⟨hlisted, hne, new, hnew⟩ := mem_otherNames.1 hother
    rw [h.hardLinks] at hlisted
    exact hnot (List.mem_cons_of_mem l
      (mem_otherNames.2 ⟨hlisted, hne, new, h.file_of_at? hnot hnew⟩))

/-- Writing the bytes that files have changes nothing. -/
theorem putEach_of_at? {names : List Location}
    (h : ∀ m ∈ names, fs.at? m = some (.file bytes)) : fs.putEach bytes names = fs := by
  induction names with
  | nil => rfl
  | cons l rest ih =>
    rw [putEach, put, FileTree.putAt_of_at? (h l List.mem_cons_self)]
    exact ih fun m hm => h m (List.mem_cons_of_mem l hm)

/-- Writing the same file once more changes nothing. -/
theorem Wrote.putEach_again (h : fs.Wrote fs' (fs.allNames l) bytes) :
    fs'.putEach bytes (fs'.allNames l) = fs' :=
  putEach_of_at? fun m hm => h.after m (h.allNames_subset hm)

/-! ## Where a path leads -/

/-- What is found where a path leads to admits a file, if nothing is in the way. -/
theorem Reaches.admits {found : Found} (h : fs.Reaches found) (hfree : fs.obstacle? found = none) :
    FileTree.Admits fs.entries found.location := by
  cases found with
  | vacant here name =>
    obtain ⟨hleads, entries, hnode, hchild⟩ := h
    refine FileTree.admits_append (hnode ▸ hleads.at?_location) fun t ht => ?_
    simp [hchild] at ht
  | present trail =>
    cases trail with
    | nil => simp [obstacle?, node] at hfree
    | cons e here =>
      obtain ⟨name, t⟩ := e
      obtain ⟨hleads, hsolid, entries, hdirectory, hchild⟩ := h
      rw [Found.location, Trail.location_cons]
      refine FileTree.admits_append (hdirectory ▸ hleads.at?_location) fun u hu => ?_
      obtain rfl : t = u := Option.some.inj (hchild.symm.trans hu)
      -- Directories and what is sealed are in the way, and no link is met.
      cases t with
      | file bytes => exact ⟨bytes, rfl⟩
      | link target => exact hsolid.elim
      | _ => simp [obstacle?, node] at hfree

/-- A file is written iff the path can be opened and nothing stands in the way. -/
theorem write_eq_ok_iff {current : Trail} {p : Path} : fs.write current p bytes = .ok fs' ↔
    ∃ found, fs.openPath current p = .ok found ∧ fs.obstacle? found = none ∧
      fs.putEach bytes (fs.allNames found.location) = fs' := by
  rw [write]
  cases fs.openPath current p with
  | error e => simp [bind, Except.bind]
  | ok found => cases hobstacle : fs.obstacle? found <;> simp [bind, Except.bind, hobstacle]

end FileSystem

end CodeAtlas
