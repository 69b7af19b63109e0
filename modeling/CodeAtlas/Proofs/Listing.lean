import Mathlib.Algebra.BigOperators.Group.List.Basic
import Mathlib.Algebra.GroupWithZero.Nat
import CodeAtlas.Proofs.ByteOrder
import CodeAtlas.Proofs.Layout
import CodeAtlas.Proofs.Places

/-!
# What a walk lists, by rules

The rules say, for each place of a walk, which layouts it contributes and how many errors. They
bound neither the depth of directories nor the number of links.

- `Listing`: the rules.
- `ListsEntries`: what the entries of a directory contribute together.
- `Listing.unique`, `ListsEntries.unique`: the rules decide.
-/

namespace CodeAtlas

/-- A link must not lead into a directory that it lies in. A directory that may not be opened is
barred as well, since nobody can tell whether it is one of these. -/
def Walker.Bars (w : Walker) (v : Visit) (trail : Trail) : Prop :=
  w.files.node trail = .sealedDirectory ∨
    ∃ entries, w.files.node trail = .directory entries ∧ trail.location ∈ v.around

/-- `Listing w v t layouts errors`: at the place `v`, where the tree `t` is found, the walk `w` lists
`layouts` and meets `errors` errors. -/
inductive Listing (w : Walker) : Visit → FileTree → List Layout → Nat → Prop where
  /-- A file with a script name that is not passed over. -/
  | script {v : Visit} {t : FileTree} {language : Language} :
      t.IsFile → language.Names v.name → w.filter.ignores v.path false = false →
        Listing w v t [.script ⟨v.name, v.path, language⟩] 0
  | ignoredFile {v : Visit} {t : FileTree} :
      t.IsFile → w.filter.ignores v.path false = true → Listing w v t [] 0
  | otherFile {v : Visit} {t : FileTree} :
      t.IsFile → (∀ language : Language, ¬language.Names v.name) → Listing w v t [] 0
  /-- A directory that is not passed over, with its entries in the order of the bytes of their
  names. -/
  | directory {v : Visit} {entries sorted : List (Name × FileTree)}
      {layouts : Name × FileTree → List Layout} {errors : Name × FileTree → Nat} :
      w.filter.ignores v.path true = false → sorted.Perm entries →
        sorted.Pairwise (fun a b => encodeUtf8 a.1 < encodeUtf8 b.1) →
        (∀ e ∈ sorted, Listing w (v.child e.1) e.2 (layouts e) (errors e)) →
          Listing w v (.directory entries) [.directory v.name (sorted.flatMap layouts)]
            (sorted.map errors).sum
  | ignoredDirectory {v : Visit} {entries : List (Name × FileTree)} :
      w.filter.ignores v.path true = true → Listing w v (.directory entries) [] 0
  /-- A directory that may not be opened counts, and so does the failure to list it. -/
  | sealedDirectory {v : Visit} :
      w.filter.ignores v.path true = false →
        Listing w v .sealedDirectory [.directory v.name []] 1
  | ignoredSealedDirectory {v : Visit} :
      w.filter.ignores v.path true = true → Listing w v .sealedDirectory [] 0
  | linkNotFollowed {v : Visit} {target : Path} :
      w.followLinks = false → Listing w v (.link target) [] 0
  | brokenLink {v : Visit} {target : Path} {e : FileError} :
      w.followLinks = true → w.files.locate [] v.path = .error e → Listing w v (.link target) [] 1
  | barredLink {v : Visit} {target : Path} {trail : Trail} :
      w.followLinks = true → w.files.locate [] v.path = .ok trail → w.Bars v trail →
        Listing w v (.link target) [] 1
  /-- Any other link stands for what it leads to, under its own name and path. -/
  | link {v : Visit} {target : Path} {trail : Trail} {layouts : List Layout} {errors : Nat} :
      w.followLinks = true → w.files.locate [] v.path = .ok trail → ¬w.Bars v trail →
        Listing w { v with real := trail.location } (w.files.node trail) layouts errors →
          Listing w v (.link target) layouts errors

/-- What the entries of a directory contribute, in the order of the bytes of their names. -/
def ListsEntries (w : Walker) (v : Visit) (entries : List (Name × FileTree))
    (children : List Layout) (errors : Nat) : Prop :=
  ∃ (sorted : List (Name × FileTree)) (layouts : Name × FileTree → List Layout)
    (errorsAt : Name × FileTree → Nat),
    sorted.Perm entries ∧ sorted.Pairwise (fun a b => encodeUtf8 a.1 < encodeUtf8 b.1) ∧
      (∀ e ∈ sorted, Listing w (v.child e.1) e.2 (layouts e) (errorsAt e)) ∧
      children = sorted.flatMap layouts ∧ errors = (sorted.map errorsAt).sum

namespace Listing

variable {w : Walker} {v : Visit}

/-- A directory that is kept is listed with what its entries contribute. -/
theorem of_listsEntries {entries : List (Name × FileTree)} {children : List Layout} {errors : Nat}
    (hkept : w.filter.ignores v.path true = false) (h : ListsEntries w v entries children errors) :
    Listing w v (.directory entries) [.directory v.name children] errors := by
  obtain ⟨sorted, layouts, errorsAt, hperm, hsorted, hall, rfl, rfl⟩ := h
  exact .directory hkept hperm hsorted hall

/-! ## The rules, read backwards -/

/-- A directory is passed over, or it is listed with what its entries contribute. -/
theorem directory_cases {entries : List (Name × FileTree)} {layouts : List Layout} {errors : Nat}
    (h : Listing w v (.directory entries) layouts errors) :
    (w.filter.ignores v.path true = true ∧ layouts = [] ∧ errors = 0) ∨
    (w.filter.ignores v.path true = false ∧ ∃ children,
      layouts = [.directory v.name children] ∧ ListsEntries w v entries children errors) := by
  cases h with
  | script hfile => exact absurd hfile (by simp [FileTree.IsFile])
  | ignoredFile hfile => exact absurd hfile (by simp [FileTree.IsFile])
  | otherFile hfile => exact absurd hfile (by simp [FileTree.IsFile])
  | directory hkept hperm hsorted hall =>
    exact .inr ⟨hkept, _, rfl, _, _, _, hperm, hsorted, hall, rfl, rfl⟩
  | ignoredDirectory hignored => exact .inl ⟨hignored, rfl, rfl⟩

/-- A file contributes nothing, or it is a script that is not passed over. -/
theorem file_cases {t : FileTree} {layouts : List Layout} {errors : Nat} (ht : t.IsFile)
    (h : Listing w v t layouts errors) :
    errors = 0 ∧ ((layouts = [] ∧ (w.filter.ignores v.path false = true ∨
        ∀ language : Language, ¬language.Names v.name)) ∨
      ∃ language : Language, language.Names v.name ∧ w.filter.ignores v.path false = false ∧
        layouts = [.script ⟨v.name, v.path, language⟩]) := by
  cases h with
  | script _ hname hkept => exact ⟨rfl, .inr ⟨_, hname, hkept, rfl⟩⟩
  | ignoredFile _ hignored => exact ⟨rfl, .inl ⟨rfl, .inl hignored⟩⟩
  | otherFile _ hother => exact ⟨rfl, .inl ⟨rfl, .inr hother⟩⟩
  | _ => exact absurd ht (by simp [FileTree.IsFile])

/-- A link contributes nothing if links are not followed or it leads nowhere, else what it leads to
does. -/
theorem link_cases {target : Path} {layouts : List Layout} {errors : Nat}
    (h : Listing w v (.link target) layouts errors) :
    (w.followLinks = false ∧ layouts = [] ∧ errors = 0) ∨
    (w.followLinks = true ∧ (∃ e, w.files.locate [] v.path = .error e) ∧ layouts = [] ∧ errors = 1) ∨
    (w.followLinks = true ∧ ∃ trail, w.files.locate [] v.path = .ok trail ∧
      ((w.Bars v trail ∧ layouts = [] ∧ errors = 1) ∨ (¬w.Bars v trail ∧
        Listing w { v with real := trail.location } (w.files.node trail) layouts errors))) := by
  cases h with
  | linkNotFollowed hnot => exact .inl ⟨hnot, rfl, rfl⟩
  | brokenLink hfollow hlocate => exact .inr (.inl ⟨hfollow, ⟨_, hlocate⟩, rfl, rfl⟩)
  | barredLink hfollow hlocate hbars =>
    exact .inr (.inr ⟨hfollow, _, hlocate, .inl ⟨hbars, rfl, rfl⟩⟩)
  | link hfollow hlocate hbars hinner =>
    exact .inr (.inr ⟨hfollow, _, hlocate, .inr ⟨hbars, hinner⟩⟩)
  | script hfile => exact absurd hfile (by simp [FileTree.IsFile])
  | ignoredFile hfile => exact absurd hfile (by simp [FileTree.IsFile])
  | otherFile hfile => exact absurd hfile (by simp [FileTree.IsFile])

end Listing

theorem Language.Names.unique {l m : Language} {name : Name} (hl : l.Names name)
    (hm : m.Names name) : l = m := by
  rw [← Language.ofFileName?_eq_some] at hl hm
  exact Option.some.inj (hl.symm.trans hm)

/-- Two lists with the same entries are the same, if their names rise. -/
theorem eq_of_perm_of_rising {a b : List (Name × FileTree)} (h : a.Perm b)
    (ha : a.Pairwise fun x y => encodeUtf8 x.1 < encodeUtf8 y.1)
    (hb : b.Pairwise fun x y => encodeUtf8 x.1 < encodeUtf8 y.1) : a = b :=
  h.eq_of_pairwise (fun _ _ _ _ hxy hyx => absurd hyx (List.lt_asymm hxy)) ha hb

/-- Entries in the order of their names contribute the same, if each of them does. -/
theorem contributions_eq {entries sorted sorted' : List (Name × FileTree)}
    {layouts layouts' : Name × FileTree → List Layout} {errors errors' : Name × FileTree → Nat}
    (hperm : sorted.Perm entries) (hperm' : sorted'.Perm entries)
    (hsorted : sorted.Pairwise fun a b => encodeUtf8 a.1 < encodeUtf8 b.1)
    (hsorted' : sorted'.Pairwise fun a b => encodeUtf8 a.1 < encodeUtf8 b.1)
    (hall : ∀ e ∈ sorted, e ∈ sorted' → layouts e = layouts' e ∧ errors e = errors' e) :
    sorted.flatMap layouts = sorted'.flatMap layouts' ∧
      (sorted.map errors).sum = (sorted'.map errors').sum := by
  -- There is only one order in which the names rise.
  have hsame : sorted = sorted' := eq_of_perm_of_rising (hperm.trans hperm'.symm) hsorted hsorted'
  subst hsame
  have hlayouts : sorted.flatMap layouts = sorted.flatMap layouts' :=
    List.flatMap_congr fun e he => (hall e he he).1
  have herrors : sorted.map errors = sorted.map errors' :=
    List.map_congr_left fun e he => (hall e he he).2
  exact ⟨hlayouts, congrArg List.sum herrors⟩

/-- The rules decide what is listed. -/
theorem Listing.unique {w : Walker} {v : Visit} {t : FileTree} {layouts layouts' : List Layout}
    {errors errors' : Nat} (h : Listing w v t layouts errors)
    (h' : Listing w v t layouts' errors') : layouts = layouts' ∧ errors = errors' := by
  induction h generalizing layouts' errors' with
  | script hfile hname hkept =>
    obtain ⟨rfl, ⟨-, hignored | hother⟩ | ⟨language, hname', -, rfl⟩⟩ := h'.file_cases hfile
    · simp [hkept] at hignored
    · exact absurd hname (hother _)
    · exact ⟨by rw [hname.unique hname'], rfl⟩
  | ignoredFile hfile hignored =>
    obtain ⟨rfl, ⟨rfl, -⟩ | ⟨language, -, hkept, -⟩⟩ := h'.file_cases hfile
    · exact ⟨rfl, rfl⟩
    · simp [hkept] at hignored
  | otherFile hfile hother =>
    obtain ⟨rfl, ⟨rfl, -⟩ | ⟨language, hname, -, -⟩⟩ := h'.file_cases hfile
    · exact ⟨rfl, rfl⟩
    · exact absurd hname (hother _)
  | @directory v entries sorted layouts errors hkept hperm hsorted _ ih =>
    rcases h'.directory_cases with ⟨hignored, -, -⟩ |
      ⟨-, children, rfl, sorted', layouts', errors', hperm', hsorted', hall', rfl, rfl⟩
    · simp [hkept] at hignored
    · obtain ⟨hlayouts, herrors⟩ := contributions_eq hperm hperm' hsorted hsorted'
        fun e he he' => ih e he (hall' e he')
      rw [hlayouts, herrors]
      exact ⟨rfl, rfl⟩
  | ignoredDirectory hignored =>
    rcases h'.directory_cases with ⟨-, rfl, rfl⟩ | ⟨hkept, -⟩
    · exact ⟨rfl, rfl⟩
    · simp [hkept] at hignored
  | sealedDirectory hkept =>
    cases h' with
    | sealedDirectory => exact ⟨rfl, rfl⟩
    | ignoredSealedDirectory hignored => simp [hkept] at hignored
    | _ hfile => exact absurd hfile (by simp [FileTree.IsFile])
  | ignoredSealedDirectory hignored =>
    cases h' with
    | sealedDirectory hkept => simp [hkept] at hignored
    | ignoredSealedDirectory => exact ⟨rfl, rfl⟩
    | _ hfile => exact absurd hfile (by simp [FileTree.IsFile])
  | linkNotFollowed hnot =>
    rcases h'.link_cases with ⟨-, rfl, rfl⟩ | ⟨hfollow, -⟩ | ⟨hfollow, -⟩
    · exact ⟨rfl, rfl⟩
    · simp [hnot] at hfollow
    · simp [hnot] at hfollow
  | brokenLink hfollow hlocate =>
    rcases h'.link_cases with ⟨hnot, -⟩ | ⟨-, -, rfl, rfl⟩ | ⟨-, trail, hlocate', -⟩
    · simp [hfollow] at hnot
    · exact ⟨rfl, rfl⟩
    · simp [hlocate] at hlocate'
  | barredLink hfollow hlocate hbars =>
    rcases h'.link_cases with ⟨hnot, -⟩ | ⟨-, ⟨e, hlocate'⟩, -⟩ |
      ⟨-, trail, hlocate', ⟨-, rfl, rfl⟩ | ⟨hbars', -⟩⟩
    · simp [hfollow] at hnot
    · simp [hlocate] at hlocate'
    · exact ⟨rfl, rfl⟩
    · exact absurd (Except.ok.inj (hlocate.symm.trans hlocate') ▸ hbars) hbars'
  | link hfollow hlocate hbars _ ih =>
    rcases h'.link_cases with ⟨hnot, -⟩ | ⟨-, ⟨e, hlocate'⟩, -⟩ |
      ⟨-, trail, hlocate', ⟨hbars', -⟩ | ⟨-, hinner⟩⟩
    · simp [hfollow] at hnot
    · simp [hlocate] at hlocate'
    · exact absurd (Except.ok.inj (hlocate'.symm.trans hlocate) ▸ hbars') hbars
    · exact ih (Except.ok.inj (hlocate'.symm.trans hlocate) ▸ hinner)

/-- The rules decide what the entries of a directory contribute. -/
theorem ListsEntries.unique {w : Walker} {v : Visit} {entries : List (Name × FileTree)}
    {children children' : List Layout} {errors errors' : Nat}
    (h : ListsEntries w v entries children errors)
    (h' : ListsEntries w v entries children' errors') :
    children = children' ∧ errors = errors' := by
  obtain ⟨sorted, layouts, errorsAt, hperm, hsorted, hall, rfl, rfl⟩ := h
  obtain ⟨sorted', layouts', errorsAt', hperm', hsorted', hall', rfl, rfl⟩ := h'
  exact contributions_eq hperm hperm' hsorted hsorted'
    fun e he he' => (hall e he).unique (hall' e he')

end CodeAtlas
