import CodeAtlas.Proofs.ScanTree
import CodeAtlas.Proofs.TreeFiles

/-!
# The order of siblings

In every directory that a walk lists, the names of the children rise byte by byte. Hence names lead
to at most one script.

- `Layout.Rise`: the names of some layouts rise.
- `Layout.Rising`: they do so in every directory of a layout.
- `Listing.rising`, `ListsEntries.rising`: this holds of what a walk lists.
- `Layout.nodup_placedAll`: no two scripts have the same place.
-/

namespace CodeAtlas

namespace Layout

def Rise (layouts : List Layout) : Prop :=
  layouts.Pairwise fun a b => encodeUtf8 a.name < encodeUtf8 b.name

/-- In every directory of a layout the names of the children rise. -/
inductive Rising : Layout → Prop where
  | script (source : ScriptFile) : Rising (.script source)
  | directory {name : Name} {children : List Layout} :
      Rise children → (∀ c ∈ children, Rising c) → Rising (.directory name children)

/-! ## Places -/

/-- If the children have different names and in each of them places differ, all places differ. -/
theorem nodup_placedAll_of_children {children : List Layout}
    (hnames : children.Pairwise fun a b => a.name ≠ b.name)
    (hall : ∀ c ∈ children, (c.placed.map (·.1)).Nodup) :
    ((placedAll children).map (·.1)).Nodup := by
  induction children with
  | nil => simp [placedAll]
  | cons first rest ih =>
    obtain ⟨hfirst, hrest⟩ := List.pairwise_cons.1 hnames
    have hown : ((first.placed.map fun p => (first.name :: p.1, p.2)).map (·.1)).Nodup := by
      have hmap : (first.placed.map fun p => (first.name :: p.1, p.2)).map (·.1)
          = (first.placed.map (·.1)).map (first.name :: ·) := by
        simp [Function.comp_def]
      rw [hmap]
      exact (hall first List.mem_cons_self).map (fun _ _ h => (List.cons.inj h).2)
    have hothers := ih hrest fun c hc => hall c (List.mem_cons_of_mem _ hc)
    rw [placedAll, List.map_append]
    refine List.Nodup.append hown hothers ?_
    -- The first name tells the scripts of one child from those of the others.
    intro names hleft hright
    simp only [List.mem_map] at hleft hright
    obtain ⟨_, ⟨p, _, rfl⟩, rfl⟩ := hleft
    obtain ⟨q, hq, hnamesq⟩ := hright
    obtain ⟨l, hl, r, _, rfl⟩ := mem_placedAll.1 hq
    exact hfirst l hl (List.cons.inj hnamesq).1.symm

theorem Rise.pairwise_ne {children : List Layout} (h : Rise children) :
    children.Pairwise fun a b => a.name ≠ b.name := by
  refine h.imp ?_
  intro a b hlt heq
  rw [heq] at hlt
  exact List.lt_irrefl _ hlt

/-- In a layout with rising names no two scripts have the same place. -/
theorem Rising.nodup_placed {l : Layout} (h : l.Rising) : (l.placed.map (·.1)).Nodup := by
  induction h with
  | script source => simp [placed]
  | directory hrise _ ih => exact nodup_placedAll_of_children hrise.pairwise_ne ih

/-- No two scripts have the same place. -/
theorem nodup_placedAll {children : List Layout} (hrise : Rise children)
    (hall : ∀ c ∈ children, c.Rising) : ((placedAll children).map (·.1)).Nodup :=
  nodup_placedAll_of_children hrise.pairwise_ne fun c hc => (hall c hc).nodup_placed

end Layout

/-! ## What a walk lists -/

/-- What entries contribute is rising, if the names of the entries rise and each of them contributes at
most one layout, of its own name. -/
theorem Layout.rising_flatMap {v : Visit} {sorted : List (Name × FileTree)}
    {layouts : Name × FileTree → List Layout}
    (hsorted : sorted.Pairwise fun a b => encodeUtf8 a.1 < encodeUtf8 b.1)
    (hall : ∀ e ∈ sorted,
      (layouts e).length ≤ 1 ∧ ∀ l ∈ layouts e, l.name = (v.child e.1).name ∧ l.Rising) :
    Rise (sorted.flatMap layouts) ∧ ∀ c ∈ sorted.flatMap layouts, c.Rising := by
  constructor
  · rw [Rise, List.pairwise_flatMap]
    constructor
    -- One entry contributes at most one layout, …
    · intro e he
      have hlength := (hall e he).1
      cases hlayouts : layouts e with
      | nil => exact .nil
      | cons l rest =>
        rw [hlayouts, List.length_cons] at hlength
        obtain rfl : rest = [] := List.eq_nil_of_length_eq_zero (by omega)
        exact List.pairwise_singleton _ _
    -- … and those of different entries have the names of these.
    · refine hsorted.imp_of_mem ?_
      intro a b ha hb hlt l hl m hm
      rw [((hall a ha).2 l hl).1, ((hall b hb).2 m hm).1, Visit.name_child, Visit.name_child]
      exact hlt
  · intro c hc
    obtain ⟨e, he, hce⟩ := List.mem_flatMap.1 hc
    exact ((hall e he).2 c hce).2

/-- A place contributes at most one layout, of its own name, and it is rising. -/
theorem Listing.rising {w : Walker} {v : Visit} {t : FileTree} {layouts : List Layout}
    {errors : Nat} (h : Listing w v t layouts errors) :
    layouts.length ≤ 1 ∧ ∀ l ∈ layouts, l.name = v.name ∧ l.Rising := by
  induction h with
  | script => exact ⟨Nat.le_refl _, by simpa [Layout.name] using Layout.Rising.script _⟩
  | @directory v entries sorted layouts errors hkept hperm hsorted _ ih =>
    refine ⟨Nat.le_refl _, fun l hl => ?_⟩
    obtain rfl : l = .directory v.name (sorted.flatMap layouts) := by simpa using hl
    obtain ⟨hrise, hchildren⟩ := Layout.rising_flatMap hsorted ih
    exact ⟨rfl, .directory hrise hchildren⟩
  | sealedDirectory =>
    refine ⟨Nat.le_refl _, fun l hl => ?_⟩
    obtain rfl := List.mem_singleton.1 hl
    exact ⟨rfl, .directory .nil (by simp)⟩
  | link _ _ _ _ ih => exact ih
  | _ => exact ⟨Nat.zero_le _, by simp⟩

/-- What the entries of a directory contribute is rising. -/
theorem ListsEntries.rising {w : Walker} {v : Visit} {entries : List (Name × FileTree)}
    {children : List Layout} {errors : Nat} (h : ListsEntries w v entries children errors) :
    Layout.Rise children ∧ ∀ c ∈ children, c.Rising := by
  obtain ⟨sorted, layouts, errorsAt, -, hsorted, hall, rfl, -⟩ := h
  exact Layout.rising_flatMap hsorted fun e he => (hall e he).rising

end CodeAtlas
