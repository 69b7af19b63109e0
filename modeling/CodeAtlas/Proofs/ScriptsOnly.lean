import CodeAtlas.Proofs.Writing

/-!
# Trees with nothing but scripts

A walk that follows no link passes over links, and over files that are no scripts, and it looks into
no file. If these are taken out of a tree, and the scripts are emptied, the walk lists the same.

- `FileTree.scriptsOnly`, `FileSystem.scriptsOnly`: what is left.
- `ListsEntries.scriptsOnly`: a walk lists the same there.
- `FileSystem.scriptsOnly_put`, `FileSystem.scriptsOnly_putEach`: neither a file that is no script is
  seen there, nor the bytes of a file.
-/

namespace CodeAtlas

/-- Does an entry of a directory count for a walk that follows no link? -/
def FileTree.countsAs (name : Name) : FileTree → Bool
  | .file _ | .sealedFile _ => (Language.ofFileName? name).isSome
  | .directory _ | .sealedDirectory => true
  | .link _ => false

mutual

/-- A tree with the directories and scripts below it, and nothing in them. -/
def FileTree.scriptsOnly : FileTree → FileTree
  | .directory entries => .directory (FileTree.scriptEntries entries)
  | .file _ | .sealedFile _ => .file []
  | t => t

def FileTree.scriptEntries : List (Name × FileTree) → List (Name × FileTree)
  | [] => []
  | (name, t) :: rest =>
    if t.countsAs name then (name, FileTree.scriptsOnly t) :: FileTree.scriptEntries rest
    else FileTree.scriptEntries rest

end

def FileSystem.scriptsOnly (fs : FileSystem) : FileSystem :=
  { entries := FileTree.scriptEntries fs.entries }

namespace FileTree

theorem IsFile.scriptsOnly {t : FileTree} (h : t.IsFile) : t.scriptsOnly.IsFile := by
  cases t with
  | file bytes => trivial
  | sealedFile size => trivial
  | _ => exact h.elim

/-- The entries that count for a walk, each with what counts below it. -/
theorem scriptEntries_eq (entries : List (Name × FileTree)) :
    scriptEntries entries
      = (entries.filter fun e => e.2.countsAs e.1).map fun e => (e.1, e.2.scriptsOnly) := by
  induction entries with
  | nil => rfl
  | cons e rest ih =>
    obtain ⟨name, t⟩ := e
    cases hcounts : t.countsAs name <;> simp [scriptEntries, hcounts, ih]

theorem scriptEntries_cons (e : Name × FileTree) (rest : List (Name × FileTree)) :
    scriptEntries (e :: rest) = scriptEntries [e] ++ scriptEntries rest := by
  simp only [scriptEntries_eq]
  rw [← List.map_append, ← List.filter_append, List.singleton_append]

end FileTree

/-! ## What a walk lists -/

section Listings

variable {w : Walker} {v : Visit}

/-- What does not count contributes nothing. -/
theorem Listing.of_not_counts (hnot : w.followLinks = false) {name : Name} {t : FileTree}
    {layouts : List Layout} {errors : Nat} (h : Listing w (v.child name) t layouts errors)
    (ht : t.countsAs name = false) : layouts = [] ∧ errors = 0 := by
  have hfile : t.IsFile → Language.ofFileName? name = none → layouts = [] ∧ errors = 0 := by
    intro hfile hnone
    obtain ⟨rfl, ⟨rfl, -⟩ | ⟨language, hname, -⟩⟩ := h.file_cases hfile
    · exact ⟨rfl, rfl⟩
    · rw [Visit.name_child, ← Language.ofFileName?_eq_some, hnone] at hname
      simp at hname
  cases t with
  | file bytes => exact hfile trivial (by simpa [FileTree.countsAs] using ht)
  | sealedFile size => exact hfile trivial (by simpa [FileTree.countsAs] using ht)
  | directory entries => simp [FileTree.countsAs] at ht
  | sealedDirectory => simp [FileTree.countsAs] at ht
  | link target =>
    rcases h.link_cases with ⟨-, rfl, rfl⟩ | ⟨hfollow, -⟩ | ⟨hfollow, -⟩
    · exact ⟨rfl, rfl⟩
    · simp [hnot] at hfollow
    · simp [hnot] at hfollow

/-- What is taken out contributed nothing, and what is left contributes what it did. -/
theorem contributions_scriptEntries {items : List (Name × FileTree)}
    {layouts layouts' : Name × FileTree → List Layout} {errors errors' : Name × FileTree → Nat}
    (hkept : ∀ e ∈ items, layouts' (e.1, e.2.scriptsOnly) = layouts e ∧
      errors' (e.1, e.2.scriptsOnly) = errors e)
    (hout : ∀ e ∈ items, e.2.countsAs e.1 = false → layouts e = [] ∧ errors e = 0) :
    (FileTree.scriptEntries items).flatMap layouts' = items.flatMap layouts ∧
      ((FileTree.scriptEntries items).map errors').sum = (items.map errors).sum := by
  induction items with
  | nil => exact ⟨rfl, rfl⟩
  | cons e rest ih =>
    obtain ⟨name, t⟩ := e
    obtain ⟨hlayouts, herrors⟩ := ih (fun e he => hkept e (List.mem_cons_of_mem _ he))
      fun e he => hout e (List.mem_cons_of_mem _ he)
    cases hcounts : t.countsAs name with
    | true =>
      obtain ⟨hfirst, hmore⟩ := hkept _ List.mem_cons_self
      simp [FileTree.scriptEntries, hcounts, hfirst, hmore, hlayouts, herrors]
    | false =>
      obtain ⟨hfirst, hmore⟩ := hout _ List.mem_cons_self hcounts
      simp [FileTree.scriptEntries, hcounts, hfirst, hmore, hlayouts, herrors]

theorem nodup_of_rising {sorted : List (Name × FileTree)}
    (h : sorted.Pairwise fun a b => encodeUtf8 a.1 < encodeUtf8 b.1) :
    (sorted.map (·.1)).Nodup := by
  refine List.pairwise_map.2 (h.imp ?_)
  intro a b hlt heq
  rw [heq] at hlt
  exact List.lt_irrefl _ hlt

def namesakeIn (entries : List (Name × FileTree)) (e : Name × FileTree) : Name × FileTree :=
  (e.1, (FileTree.child? entries e.1).getD e.2)

theorem namesakeIn_of_mem {entries : List (Name × FileTree)} (h : (entries.map (·.1)).Nodup)
    {e : Name × FileTree} (he : e ∈ entries) (t : FileTree) : namesakeIn entries (e.1, t) = e := by
  have hchild := (FileTree.child?_eq_some_iff h).2 he
  rw [namesakeIn, hchild, Option.getD_some]

/-- A directory lists the same without what does not count, if this holds of its entries. -/
theorem listsEntries_scriptEntries {entries sorted : List (Name × FileTree)}
    {layouts : Name × FileTree → List Layout} {errors : Name × FileTree → Nat}
    (hperm : sorted.Perm entries)
    (hsorted : sorted.Pairwise fun a b => encodeUtf8 a.1 < encodeUtf8 b.1)
    (hall : ∀ e ∈ sorted, Listing w (v.child e.1) e.2.scriptsOnly (layouts e) (errors e))
    (hout : ∀ e ∈ sorted, e.2.countsAs e.1 = false → layouts e = [] ∧ errors e = 0) :
    ListsEntries w v (FileTree.scriptEntries entries) (sorted.flatMap layouts)
      (sorted.map errors).sum := by
  -- Names differ, so that what an entry was can be looked up by its name.
  have hwhole : ∀ e ∈ sorted, namesakeIn sorted (e.1, e.2.scriptsOnly) = e := fun e he =>
    namesakeIn_of_mem (nodup_of_rising hsorted) he _
  have hkept : ∀ e ∈ sorted,
      (layouts ∘ namesakeIn sorted) (e.1, e.2.scriptsOnly) = layouts e ∧
        (errors ∘ namesakeIn sorted) (e.1, e.2.scriptsOnly) = errors e := by
    intro e he
    simp only [Function.comp_apply, hwhole e he, and_self]
  obtain ⟨hlayouts, herrors⟩ := contributions_scriptEntries hkept hout
  refine ⟨FileTree.scriptEntries sorted, layouts ∘ namesakeIn sorted, errors ∘ namesakeIn sorted,
    ?_, ?_, ?_, hlayouts.symm, herrors.symm⟩
  · rw [FileTree.scriptEntries_eq, FileTree.scriptEntries_eq]
    exact (hperm.filter _).map _
  · rw [FileTree.scriptEntries_eq, List.pairwise_map]
    exact hsorted.filter _
  · intro e he
    rw [FileTree.scriptEntries_eq, List.mem_map] at he
    obtain ⟨old, hold, rfl⟩ := he
    have hmem := List.mem_of_mem_filter hold
    simp only [Function.comp_apply, hwhole old hmem]
    exact hall old hmem

/-- A walk that follows no link lists the same where there is nothing but scripts. -/
theorem Listing.scriptsOnly (hnot : w.followLinks = false) (files : FileSystem) {t : FileTree}
    {layouts : List Layout} {errors : Nat} (h : Listing w v t layouts errors) :
    Listing { w with files := files } v t.scriptsOnly layouts errors := by
  induction h with
  | script hfile hname hkept => exact .script hfile.scriptsOnly hname hkept
  | ignoredFile hfile hignored => exact .ignoredFile hfile.scriptsOnly hignored
  | otherFile hfile hother => exact .otherFile hfile.scriptsOnly hother
  | directory hkept hperm hsorted hall ih =>
    exact Listing.of_listsEntries hkept
      (listsEntries_scriptEntries hperm hsorted ih fun e he => (hall e he).of_not_counts hnot)
  | ignoredDirectory hignored => exact .ignoredDirectory hignored
  | sealedDirectory hkept => exact .sealedDirectory hkept
  | ignoredSealedDirectory hignored => exact .ignoredSealedDirectory hignored
  | linkNotFollowed => exact .linkNotFollowed hnot
  | brokenLink hfollow => exact absurd hfollow (by simp [hnot])
  | barredLink hfollow => exact absurd hfollow (by simp [hnot])
  | link hfollow => exact absurd hfollow (by simp [hnot])

theorem ListsEntries.scriptsOnly (hnot : w.followLinks = false) (files : FileSystem)
    {entries : List (Name × FileTree)} {children : List Layout} {errors : Nat}
    (h : ListsEntries w v entries children errors) :
    ListsEntries { w with files := files } v (FileTree.scriptEntries entries) children errors := by
  obtain ⟨sorted, layouts, errorsAt, hperm, hsorted, hall, rfl, rfl⟩ := h
  exact listsEntries_scriptEntries hperm hsorted (fun e he => (hall e he).scriptsOnly hnot files)
    fun e he => (hall e he).of_not_counts hnot

end Listings

/-! ## Files that are no scripts -/

namespace FileTree

variable {entries : List (Name × FileTree)} {name : Name}

/-- A tree that counts for as much as the one under its name changes nothing. -/
theorem scriptEntries_putEntry {t : FileTree}
    (h : scriptEntries [(name, t)]
      = ((child? entries name).map fun old => scriptEntries [(name, old)]).getD []) :
    scriptEntries (putEntry entries name t) = scriptEntries entries := by
  induction entries with
  | nil => exact h
  | cons e rest ih =>
    obtain ⟨first, old⟩ := e
    rw [child?_cons] at h
    by_cases hfirst : first = name
    · subst hfirst
      rw [if_pos rfl, Option.map_some, Option.getD_some] at h
      rw [putEntry, if_pos (beq_self_eq_true first), scriptEntries_cons, h, ← scriptEntries_cons]
    · rw [if_neg hfirst] at h
      rw [putEntry, if_neg (by simpa using hfirst), scriptEntries_cons, ih h,
        ← scriptEntries_cons]

theorem scriptEntries_file (hname : Language.ofFileName? name = none) (bytes : Bytes) :
    scriptEntries [(name, file bytes)] = [] := by
  simp [scriptEntries, countsAs, hname]

/-- A file is not seen if it is no script, or if there was a file before. -/
theorem scriptEntries_putAt {above : Location} (h : Admits entries (above ++ [name]))
    (hname : Language.ofFileName? name = none ∨
      ((directory entries).at? (above ++ [name])).isSome) (bytes : Bytes) :
    scriptEntries (putAt entries (above ++ [name]) (file bytes)) = scriptEntries entries := by
  induction above generalizing entries with
  | nil =>
    refine scriptEntries_putEntry ?_
    cases hchild : child? entries name with
    | none =>
      rcases hname with hname | hthere
      · rw [scriptEntries_file hname]
        rfl
      · simp [at?_directory_cons, hchild] at hthere
    | some old =>
      -- What is left of a file does not tell its bytes.
      obtain ⟨oldBytes, rfl⟩ := h old hchild
      rfl
  | cons first above ih =>
    rw [List.cons_append] at h hname ⊢
    obtain ⟨inner, hchild, hinner, hput⟩ := h.descend (by simp)
    rw [at?_directory_cons, hchild, Option.bind_some] at hname
    rw [hput]
    refine scriptEntries_putEntry ?_
    rw [hchild]
    simp [scriptEntries, countsAs, scriptsOnly, ih hinner hname]

/-- What counts is found under its name. -/
theorem child?_scriptEntries {t : FileTree} (hchild : child? entries name = some t)
    (ht : t.countsAs name = true) : child? (scriptEntries entries) name = some t.scriptsOnly := by
  induction entries with
  | nil => simp [child?] at hchild
  | cons e rest ih =>
    obtain ⟨first, u⟩ := e
    rw [child?_cons] at hchild
    by_cases hfirst : first = name
    · subst hfirst
      rw [if_pos rfl] at hchild
      obtain rfl : u = t := Option.some.inj hchild
      rw [scriptEntries, if_pos ht, child?_cons, if_pos rfl]
    · rw [if_neg hfirst] at hchild
      rw [scriptEntries]
      split
      · rw [child?_cons, if_neg hfirst, ih hchild]
      · exact ih hchild

/-- Directories are where they were. -/
theorem at?_scriptsOnly {t : FileTree} {l : Location} (h : t.at? l = some (directory entries)) :
    t.scriptsOnly.at? l = some (directory (scriptEntries entries)) := by
  induction l generalizing t with
  | nil =>
    obtain rfl : t = directory entries := Option.some.inj h
    rfl
  | cons name rest ih =>
    cases t with
    | directory inner =>
      obtain ⟨u, hchild, hu⟩ := at?_directory_cons_eq_some h
      -- Only a directory has a directory at or below it.
      have hcounts : u.countsAs name = true := by
        cases u with
        | directory _ => rfl
        | _ => cases rest <;> simp [at?, entries?] at hu
      rw [scriptsOnly, at?_directory_cons, child?_scriptEntries hchild hcounts, Option.bind_some,
        ih hu]
    | _ => simp [at?, entries?] at h

end FileTree

namespace FileSystem

variable {fs : FileSystem}

/-- A file that is no script is not seen among the scripts of a file system, and neither are other
bytes of a file. -/
theorem scriptsOnly_put {above : Location} {name : Name}
    (h : FileTree.Admits fs.entries (above ++ [name]))
    (hname : Language.ofFileName? name = none ∨ (fs.at? (above ++ [name])).isSome)
    (bytes : Bytes) : (fs.put (above ++ [name]) (.file bytes)).scriptsOnly = fs.scriptsOnly := by
  simp only [scriptsOnly, put, FileTree.scriptEntries_putAt h hname bytes]

/-- Files that get other bytes look the same, and well-formed directories stay so. -/
theorem scriptsOnly_putEach (bytes : Bytes) {names : List Location} (hfs : fs.WellFormed)
    (h : ∀ m ∈ names, ∃ old, fs.at? m = some (.file old)) :
    (fs.putEach bytes names).scriptsOnly = fs.scriptsOnly ∧ (fs.putEach bytes names).WellFormed := by
  induction names generalizing fs with
  | nil => exact ⟨rfl, hfs⟩
  | cons l rest ih =>
    obtain ⟨old, hold⟩ := h l List.mem_cons_self
    have hadmits := FileTree.admits_of_file hold
    rcases List.eq_nil_or_concat l with rfl | ⟨above, name, rfl⟩
    · exact hadmits.elim
    rw [List.concat_eq_append] at hold hadmits ⊢
    have hseen : Language.ofFileName? name = none ∨ (fs.at? (above ++ [name])).isSome :=
      .inr (by rw [hold]; rfl)
    have hwell : (fs.put (above ++ [name]) (.file bytes)).WellFormed :=
      hfs.putAt (hfs.isProper_of_at? hold) hadmits bytes
    obtain ⟨hscripts, hlast⟩ := ih hwell fun m hm => by
      obtain ⟨first, hfirst⟩ := h m (List.mem_cons_of_mem _ hm)
      exact (wrote_put hadmits bytes).at?_file hfirst
    exact ⟨hscripts.trans (scriptsOnly_put hadmits hseen bytes), hlast⟩

theorem at?_scriptsOnly {l : Location} {entries : List (Name × FileTree)}
    (h : fs.at? l = some (.directory entries)) :
    fs.scriptsOnly.at? l = some (.directory (FileTree.scriptEntries entries)) :=
  FileTree.at?_scriptsOnly h

end FileSystem

end CodeAtlas
