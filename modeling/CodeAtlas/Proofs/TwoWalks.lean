import CodeAtlas.Proofs.Pruning

/-!
# Two walks side by side

Two walks go through the same trees, each from a place of its own. If the second one passes over
whatever the first one does, what it finds is left of what the first one finds.

- `Walker.Beside`: places that correspond to each other.
- `Listing.pruned`: what is listed at such places.
- `ListsEntries.pruned`: what the entries of a directory contribute.
-/

namespace CodeAtlas

/-- `related v v' t` tells of some places `v` of the walk `w` and `v'` of the walk `w'`, where the
tree `t` is found, that they correspond: they have the same name, `w'` passes over what `w` does,
and the scripts are read alike. -/
structure Walker.Beside (w w' : Walker) (read read' : ScriptFile → FileNode)
    (related : Visit → Visit → FileTree → Prop) : Prop where
  name : ∀ {v v' t}, related v v' t → v'.name = v.name
  ignores : ∀ {v v' t}, related v v' t → ∀ isDirectory,
    w.filter.ignores v.path isDirectory = true → w'.filter.ignores v'.path isDirectory = true
  read : ∀ {v v' t}, related v v' t → t.IsFile → ∀ language,
    read' ⟨v'.name, v'.path, language⟩ = read ⟨v.name, v.path, language⟩
  child : ∀ {v v' entries}, related v v' (.directory entries) → ∀ e ∈ entries,
    related (v.child e.1) (v'.child e.1) e.2
  /-- Either no link is followed, or both walks are at the same place of the same files. -/
  link : ∀ {v v' target}, related v v' (.link target) →
    (w.followLinks = false ∧ w'.followLinks = false) ∨
    (v' = v ∧ w'.files = w.files ∧ w'.followLinks = w.followLinks ∧ ∀ trail,
      related { v with real := trail.location } { v with real := trail.location }
        (w.files.node trail))

theorem Listing.sealedDirectory_cases {w : Walker} {v : Visit} {layouts : List Layout}
    {errors : Nat} (h : Listing w v .sealedDirectory layouts errors) :
    (w.filter.ignores v.path true = true ∧ layouts = [] ∧ errors = 0) ∨
    (w.filter.ignores v.path true = false ∧ layouts = [.directory v.name []] ∧ errors = 1) := by
  cases h with
  | sealedDirectory hkept => exact .inr ⟨hkept, rfl, rfl⟩
  | ignoredSealedDirectory hignored => exact .inl ⟨hignored, rfl, rfl⟩
  | _ hfile => exact absurd hfile (by simp [FileTree.IsFile])

/-- What entries contribute is left, if this holds entry by entry. -/
theorem Layout.pruned_flatMap {items : List (Name × FileTree)}
    {layouts layouts' : Name × FileTree → List Layout} {errors errors' : Name × FileTree → Nat}
    {read read' : ScriptFile → FileNode}
    (hall : ∀ e ∈ items,
      TreeNode.PrunedAll (fillAll read' (layouts' e)) (fillAll read (layouts e)) ∧
        errors' e ≤ errors e) :
    TreeNode.PrunedAll (fillAll read' (items.flatMap layouts'))
        (fillAll read (items.flatMap layouts)) ∧
      (items.map errors').sum ≤ (items.map errors).sum := by
  induction items with
  | nil => exact ⟨.nil, Nat.le_refl _⟩
  | cons e rest ih =>
    obtain ⟨hfirst, herrors⟩ := hall e List.mem_cons_self
    obtain ⟨hrest, hmore⟩ := ih fun e he => hall e (List.mem_cons_of_mem _ he)
    constructor
    · simp only [List.flatMap_cons, fillAll_eq_map, List.map_append] at *
      exact hfirst.append hrest
    · simp only [List.map_cons, List.sum_cons]
      omega

section Beside

variable {w w' : Walker} {read read' : ScriptFile → FileNode}
  {related : Visit → Visit → FileTree → Prop}

/-- Entries in the order of their names leave what each of them leaves. -/
theorem contributions_pruned {entries sorted sorted' : List (Name × FileTree)}
    {layouts layouts' : Name × FileTree → List Layout} {errors errors' : Name × FileTree → Nat}
    (hperm : sorted.Perm entries) (hperm' : sorted'.Perm entries)
    (hsorted : sorted.Pairwise fun a b => encodeUtf8 a.1 < encodeUtf8 b.1)
    (hsorted' : sorted'.Pairwise fun a b => encodeUtf8 a.1 < encodeUtf8 b.1)
    (hall : ∀ e ∈ sorted, e ∈ sorted' →
      TreeNode.PrunedAll (Layout.fillAll read' (layouts' e)) (Layout.fillAll read (layouts e)) ∧
        errors' e ≤ errors e) :
    TreeNode.PrunedAll (Layout.fillAll read' (sorted'.flatMap layouts'))
        (Layout.fillAll read (sorted.flatMap layouts)) ∧
      (sorted'.map errors').sum ≤ (sorted.map errors).sum := by
  -- There is only one order in which the names rise.
  obtain rfl : sorted = sorted' := eq_of_perm_of_rising (hperm.trans hperm'.symm) hsorted hsorted'
  exact Layout.pruned_flatMap fun e he => hall e he he

/-- What the second walk lists at a place is left of what the first one lists, and it meets no more
errors. -/
theorem Listing.pruned (hbeside : w.Beside w' read read' related) {v v' : Visit} {t : FileTree}
    {layouts layouts' : List Layout} {errors errors' : Nat} (h : Listing w v t layouts errors)
    (hrelated : related v v' t) (h' : Listing w' v' t layouts' errors') :
    TreeNode.PrunedAll (Layout.fillAll read' layouts') (Layout.fillAll read layouts) ∧
      errors' ≤ errors := by
  induction h generalizing v' layouts' errors' with
  | @script v t language hfile hname _ =>
    obtain ⟨rfl, ⟨rfl, -⟩ | ⟨language', hname', -, rfl⟩⟩ := h'.file_cases hfile
    · exact ⟨.nil_left _, Nat.le_refl _⟩
    · rw [hbeside.name hrelated] at hname'
      obtain rfl : language = language' := hname.unique hname'
      have hread := hbeside.read hrelated hfile language
      simp only [Layout.fillAll, Layout.fill, hread]
      exact ⟨.file _ .nil, Nat.le_refl _⟩
  | ignoredFile hfile hignored =>
    have hignored' := hbeside.ignores hrelated false hignored
    obtain ⟨rfl, ⟨rfl, -⟩ | ⟨language, -, hkept, -⟩⟩ := h'.file_cases hfile
    · exact ⟨.nil_left _, Nat.le_refl _⟩
    · simp [hignored'] at hkept
  | otherFile hfile hother =>
    obtain ⟨rfl, ⟨rfl, -⟩ | ⟨language, hname, -⟩⟩ := h'.file_cases hfile
    · exact ⟨.nil_left _, Nat.le_refl _⟩
    · rw [hbeside.name hrelated] at hname
      exact absurd hname (hother language)
  | directory _ hperm hsorted _ ih =>
    rcases h'.directory_cases with ⟨-, rfl, rfl⟩ | ⟨-, children, rfl, hlists'⟩
    · exact ⟨.nil_left _, Nat.zero_le _⟩
    · obtain ⟨sorted', layouts', errorsAt', hperm', hsorted', hall', rfl, rfl⟩ := hlists'
      obtain ⟨hinner, hfewer⟩ := contributions_pruned hperm hperm' hsorted hsorted'
        fun e he he' => ih e he (hbeside.child hrelated e (hperm.mem_iff.1 he)) (hall' e he')
      simp only [Layout.fillAll, Layout.fill, hbeside.name hrelated]
      exact ⟨.directory _ hinner .nil, hfewer⟩
  | ignoredDirectory hignored =>
    have hignored' := hbeside.ignores hrelated true hignored
    rcases h'.directory_cases with ⟨-, rfl, rfl⟩ | ⟨hkept, -⟩
    · exact ⟨.nil_left _, Nat.le_refl _⟩
    · simp [hignored'] at hkept
  | sealedDirectory _ =>
    rcases h'.sealedDirectory_cases with ⟨-, rfl, rfl⟩ | ⟨-, rfl, rfl⟩
    · exact ⟨.nil_left _, Nat.zero_le _⟩
    · simp only [Layout.fillAll, Layout.fill, hbeside.name hrelated]
      exact ⟨.directory _ .nil .nil, Nat.le_refl _⟩
  | ignoredSealedDirectory hignored =>
    have hignored' := hbeside.ignores hrelated true hignored
    rcases h'.sealedDirectory_cases with ⟨-, rfl, rfl⟩ | ⟨hkept, -⟩
    · exact ⟨.nil_left _, Nat.le_refl _⟩
    · simp [hignored'] at hkept
  | linkNotFollowed hnot =>
    have hnot' : w'.followLinks = false := by
      rcases hbeside.link hrelated with ⟨-, hnot'⟩ | ⟨-, -, hsame, -⟩
      · exact hnot'
      · rw [hsame, hnot]
    rcases h'.link_cases with ⟨-, rfl, rfl⟩ | ⟨hfollow, -⟩ | ⟨hfollow, -⟩
    · exact ⟨.nil_left _, Nat.le_refl _⟩
    · simp [hnot'] at hfollow
    · simp [hnot'] at hfollow
  -- From here on links are followed, so that the walks go through the same files.
  | brokenLink hfollow hlocate =>
    rcases hbeside.link hrelated with ⟨hnot, -⟩ | ⟨rfl, hfiles, hsame, -⟩
    · simp [hfollow] at hnot
    · rcases h'.link_cases with ⟨hnot, -⟩ | ⟨-, -, rfl, rfl⟩ | ⟨-, trail, hlocate', -⟩
      · simp [hsame, hfollow] at hnot
      · exact ⟨.nil_left _, Nat.le_refl _⟩
      · simp [hfiles, hlocate] at hlocate'
  | barredLink hfollow hlocate hbars =>
    rcases hbeside.link hrelated with ⟨hnot, -⟩ | ⟨rfl, hfiles, hsame, -⟩
    · simp [hfollow] at hnot
    · rcases h'.link_cases with ⟨hnot, -⟩ | ⟨-, -, rfl, rfl⟩ |
        ⟨-, trail, hlocate', ⟨-, rfl, rfl⟩ | ⟨hbars', -⟩⟩
      · simp [hsame, hfollow] at hnot
      · exact ⟨.nil_left _, Nat.le_refl _⟩
      · exact ⟨.nil_left _, Nat.le_refl _⟩
      · rw [hfiles] at hlocate'
        obtain rfl := Except.ok.inj (hlocate.symm.trans hlocate')
        rw [Walker.Bars, hfiles] at hbars'
        exact absurd hbars hbars'
  | link hfollow hlocate hbars _ ih =>
    rcases hbeside.link hrelated with ⟨hnot, -⟩ | ⟨rfl, hfiles, hsame, hbehind⟩
    · simp [hfollow] at hnot
    · rcases h'.link_cases with ⟨hnot, -⟩ | ⟨-, ⟨e, hlocate'⟩, -⟩ |
        ⟨-, trail, hlocate', ⟨hbars', -⟩ | ⟨-, hinner⟩⟩
      · simp [hsame, hfollow] at hnot
      · simp [hfiles, hlocate] at hlocate'
      · rw [hfiles] at hlocate'
        obtain rfl := Except.ok.inj (hlocate.symm.trans hlocate')
        rw [Walker.Bars, hfiles] at hbars'
        exact absurd hbars' hbars
      · rw [hfiles] at hlocate' hinner
        obtain rfl := Except.ok.inj (hlocate.symm.trans hlocate')
        exact ih (hbehind _) hinner

/-- What the entries of two directories contribute, if their places correspond. -/
theorem ListsEntries.pruned (hbeside : w.Beside w' read read' related) {v v' : Visit}
    {entries : List (Name × FileTree)} {children children' : List Layout} {errors errors' : Nat}
    (hentries : ∀ e ∈ entries, related (v.child e.1) (v'.child e.1) e.2)
    (h : ListsEntries w v entries children errors)
    (h' : ListsEntries w' v' entries children' errors') :
    TreeNode.PrunedAll (Layout.fillAll read' children') (Layout.fillAll read children) ∧
      errors' ≤ errors := by
  obtain ⟨sorted, layouts, errorsAt, hperm, hsorted, hall, rfl, rfl⟩ := h
  obtain ⟨sorted', layouts', errorsAt', hperm', hsorted', hall', rfl, rfl⟩ := h'
  refine contributions_pruned hperm hperm' hsorted hsorted' ?_
  intro e he he'
  exact (hall e he).pruned hbeside (hentries e (hperm.mem_iff.1 he)) (hall' e he')

end Beside

end CodeAtlas
