import CodeAtlas.Proofs.Blank

/-!
# Changing the bytes of a file

Other bytes in a file change neither the layout of a file system nor any other file.

- `FileTree.child?_putEntry`: what is found under a name after a tree was put into a directory.
- `FileSystem.SameFilesExcept`: file systems that hold the same files except at one location.
- `FileSystem.blank_put`: other bytes in a file leave the layout.
- `FileSystem.sameFilesExcept_put`: and they leave all other files.
-/

namespace CodeAtlas

namespace FileTree

theorem IsFile.at?_cons {t : FileTree} (h : t.IsFile) (name : Name) (rest : Location) :
    t.at? (name :: rest) = none := by
  cases t with
  | directory entries => exact absurd h (by simp [IsFile])
  | _ => rfl

theorem child?_cons (e : Name × FileTree) (rest : List (Name × FileTree)) (name : Name) :
    child? (e :: rest) name = if e.1 = name then some e.2 else child? rest name := by
  by_cases hname : e.1 = name <;> simp [child?, hname]

/-- A tree that was put into a directory is found under its name, and nothing else is changed. -/
theorem child?_putEntry (entries : List (Name × FileTree)) (name other : Name) (t : FileTree) :
    child? (putEntry entries name t) other
      = if other = name then some t else child? entries other := by
  induction entries with
  | nil =>
    rw [putEntry, child?_cons]
    by_cases hother : other = name
    · simp [hother]
    · simp [hother, Ne.symm hother]
  | cons e rest ih =>
    obtain ⟨first, old⟩ := e
    by_cases hfirst : first = name
    · subst hfirst
      by_cases hother : first = other
      · simp [putEntry, child?_cons, hother]
      · simp [putEntry, child?_cons, hother, Ne.symm hother]
    · have hput : putEntry ((first, old) :: rest) name t
          = (first, old) :: putEntry rest name t := by
        simp [putEntry, hfirst]
      rw [hput, child?_cons, ih, child?_cons]
      by_cases hother : first = other
      · have hne : other ≠ name := hother ▸ hfirst
        simp [hother, hne]
      · simp [hother]

/-- A file that takes the place of another one does not change the emptied entries. -/
theorem blankEntries_putEntry {entries : List (Name × FileTree)} {name : Name} {old t : FileTree}
    (hchild : child? entries name = some old) (hblank : t.blank = old.blank) :
    blankEntries (putEntry entries name t) = blankEntries entries := by
  induction entries with
  | nil => simp [child?] at hchild
  | cons e rest ih =>
    obtain ⟨first, u⟩ := e
    rw [child?_cons] at hchild
    by_cases hfirst : first = name
    · have hold : u = old := by simpa [hfirst] using hchild
      simp [putEntry, hfirst, blankEntries, hblank, hold]
    · have hrest : child? rest name = some old := by simpa [hfirst] using hchild
      simp [putEntry, hfirst, blankEntries, ih hrest]

/-- Where something is below a name, the name is that of a directory. -/
theorem child?_of_at? {entries : List (Name × FileTree)} {name next : Name} {rest : Location}
    {t : FileTree} (h : (directory entries).at? (name :: next :: rest) = some t) :
    ∃ inner, child? entries name = some (directory inner) ∧
      (directory inner).at? (next :: rest) = some t := by
  obtain ⟨u, hchild, hrest⟩ := at?_directory_cons_eq_some h
  cases u with
  | directory inner => exact ⟨inner, hchild, hrest⟩
  | _ => simp [at?, entries?] at hrest

/-- Below a directory that is there, putting a tree changes the entry of this directory only. -/
theorem putAt_cons_cons {name next : Name} {rest : Location} {inner : List (Name × FileTree)}
    (hchild : child? entries name = some (directory inner)) (t : FileTree) :
    putAt entries (name :: next :: rest) t
      = putEntry entries name (directory (putAt inner (next :: rest) t)) := by
  simp [putAt, hchild, entries?]

/-- Other bytes in a file leave the layout of the directories around it. -/
theorem blankEntries_putAt {l : Location} {entries : List (Name × FileTree)} {old t : FileTree}
    (hold : (directory entries).at? l = some old) (hfile : old.IsFile)
    (hblank : t.blank = old.blank) :
    blankEntries (putAt entries l t) = blankEntries entries := by
  induction l generalizing entries with
  | nil => rfl
  | cons name rest ih =>
    cases rest with
    | nil =>
      obtain ⟨u, hchild, hu⟩ := at?_directory_cons_eq_some hold
      obtain rfl : u = old := Option.some.inj hu
      exact blankEntries_putEntry hchild hblank
    | cons next rest =>
      obtain ⟨inner, hchild, hinner⟩ := child?_of_at? hold
      rw [putAt_cons_cons hchild]
      refine blankEntries_putEntry hchild ?_
      rw [blank, blank, ih hinner]

/-- Other bytes in a file leave all other files below the directories around it. -/
theorem at?_putAt {l m : Location} {entries : List (Name × FileTree)} {old t u : FileTree}
    (hold : (directory entries).at? l = some old) (hfile : old.IsFile) (hne : m ≠ l)
    (hu : u.IsFile) (hat : (directory entries).at? m = some u) :
    (directory (putAt entries l t)).at? m = some u := by
  induction l generalizing entries m with
  | nil =>
    obtain rfl : directory entries = old := Option.some.inj hold
    exact absurd hfile (by simp [IsFile])
  | cons name rest ih =>
    cases m with
    | nil =>
      obtain rfl : directory entries = u := Option.some.inj hat
      exact absurd hu (by simp [IsFile])
    | cons other below =>
      obtain ⟨v, hchild, hbelow⟩ := at?_directory_cons_eq_some hat
      cases rest with
      | nil =>
        obtain ⟨w, hw, hwold⟩ := at?_directory_cons_eq_some hold
        obtain rfl : w = old := Option.some.inj hwold
        -- Below a file there is nothing, so that the names part at once.
        have hother : other ≠ name := by
          rintro rfl
          obtain rfl : w = v := Option.some.inj (hw.symm.trans hchild)
          cases below with
          | nil => exact hne rfl
          | cons next below => simp [hfile.at?_cons] at hbelow
        rw [putAt, at?_directory_cons, child?_putEntry, if_neg hother, hchild, Option.bind_some,
          hbelow]
      | cons next rest =>
        obtain ⟨inner, hinner, hdeeper⟩ := child?_of_at? hold
        rw [putAt_cons_cons hinner, at?_directory_cons, child?_putEntry]
        by_cases hother : other = name
        · subst hother
          obtain rfl : directory inner = v := Option.some.inj (hinner.symm.trans hchild)
          have hrest : below ≠ next :: rest := fun heq => hne (heq ▸ rfl)
          simpa using ih hdeeper hrest hbelow
        · rw [if_neg hother, hchild, Option.bind_some, hbelow]

end FileTree

namespace FileSystem

variable {fs : FileSystem}

/-- Two file systems hold the same files, except perhaps at one location. -/
def SameFilesExcept (fs fs' : FileSystem) (l : Location) : Prop :=
  ∀ m, m ≠ l → ∀ t : FileTree, t.IsFile → fs.at? m = some t → fs'.at? m = some t

/-- Other bytes in a file leave the layout. -/
theorem blank_put {l : Location} {old t : FileTree} (hold : fs.at? l = some old)
    (hfile : old.IsFile) (ht : t.IsFile) : fs.blank = (fs.put l t).blank := by
  have hblank : t.blank = old.blank := by
    cases t <;> cases old <;> simp_all [FileTree.blank, FileTree.IsFile]
  rw [blank, blank, put, FileTree.blankEntries_putAt hold hfile hblank]

/-- Other bytes in a file leave all other files. -/
theorem sameFilesExcept_put {l : Location} {old : FileTree} (hold : fs.at? l = some old)
    (hfile : old.IsFile) (t : FileTree) : fs.SameFilesExcept (fs.put l t) l :=
  fun _ hne _ hu hat => FileTree.at?_putAt hold hfile hne hu hat

end FileSystem

end CodeAtlas
