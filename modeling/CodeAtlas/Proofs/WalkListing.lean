import Mathlib.Data.Finset.Card
import CodeAtlas.Proofs.Listing

/-!
# A walk lists what the rules say

A walk is bounded by the number of links that it may follow one behind the other. The bound is never
reached: each link that is followed leads to a directory that is not being visited, so that the
directories outside of the visit become fewer.

- `Walker.unvisited`: the number of directories that are not being visited.
- `Walker.visit_lists`: a visit with enough links to follow lists what the rules say.
- `Walker.walk_lists`: a walk does.
-/

namespace CodeAtlas

/-! ## The order of names -/

/-- Names are ordered as their bytes are. -/
theorem Name.isBefore_iff (a b : Name) : a.isBefore b = true ↔ encodeUtf8 a < encodeUtf8 b := by
  rw [encodeUtf8_lt_iff, Name.isBefore, List.lex_eq_true_iff_lex]
  simp only [decide_eq_true_eq]
  exact Iff.rfl

def sortByName (entries : List (Name × FileTree)) : List (Name × FileTree) :=
  entries.mergeSort fun a b => !Name.isBefore b.1 a.1

theorem sortByName_perm (entries : List (Name × FileTree)) : (sortByName entries).Perm entries :=
  List.mergeSort_perm _ _

/-- Where names differ, their bytes rise. -/
theorem sortByName_rising {entries : List (Name × FileTree)} (h : (entries.map (·.1)).Nodup) :
    (sortByName entries).Pairwise fun a b => encodeUtf8 a.1 < encodeUtf8 b.1 := by
  have hle : (sortByName entries).Pairwise fun a b => (!Name.isBefore b.1 a.1) = true := by
    apply List.pairwise_mergeSort
    · intro a b c hab hbc
      simp only [Bool.not_eq_true', ← Bool.not_eq_true, Name.isBefore_iff, encodeUtf8_lt_iff,
        not_lt] at *
      exact le_trans hab hbc
    · intro a b
      simp only [Bool.or_eq_true, Bool.not_eq_true', ← Bool.not_eq_true, Name.isBefore_iff,
        encodeUtf8_lt_iff, not_lt]
      exact le_total a.1 b.1
  have hne : (sortByName entries).Pairwise fun a b => a.1 ≠ b.1 := by
    rw [← List.pairwise_map (R := (· ≠ ·))]
    exact ((sortByName_perm entries).map _).nodup_iff.2 h
  refine (hle.and hne).imp ?_
  rintro a b ⟨hab, hne⟩
  simp only [Bool.not_eq_true', ← Bool.not_eq_true, Name.isBefore_iff, encodeUtf8_lt_iff,
    not_lt] at hab ⊢
  exact lt_of_le_of_ne hab hne

/-- Results that belong to entries come in the order of the entries. -/
theorem inNameOrder_map {α : Type} (f : Name × FileTree → α) (entries : List (Name × FileTree)) :
    inNameOrder (entries.map fun e => (e.1, f e)) = (sortByName entries).map f := by
  have hsort : (sortByName entries).map (fun e => (e.1, f e))
      = (entries.map fun e => (e.1, f e)).mergeSort fun a b => !Name.isBefore b.1 a.1 :=
    List.map_mergeSort fun _ _ _ _ => rfl
  rw [inNameOrder, ← hsort, List.map_map]
  rfl

/-! ## Results put together -/

theorem Walked.entries_concat (all : List Walked) :
    (Walked.concat all).entries = all.flatMap (·.entries) := by
  induction all with
  | nil => rfl
  | cons first rest ih => rw [List.flatMap_cons, ← ih]; rfl

theorem Walked.errors_concat (all : List Walked) :
    (Walked.concat all).errors = (all.map (·.errors)).sum := by
  induction all with
  | nil => rfl
  | cons first rest ih => rw [List.map_cons, List.sum_cons, ← ih]; rfl

namespace Walker

variable {w : Walker}

theorem visitEntries_eq_map (cross : Visit → FileTree → Walked) (v : Visit)
    (entries : List (Name × FileTree)) :
    w.visitEntries cross v entries
      = entries.map fun e => (e.1, w.visitTree cross (v.child e.1) e.2) := by
  induction entries with
  | nil => rfl
  | cons e rest ih =>
    obtain ⟨name, t⟩ := e
    rw [visitEntries, ih, List.map_cons]

/-- What is found at and below a place is listed there by the rules. -/
def Lists (w : Walker) (v : Visit) (t : FileTree) (found : Walked) : Prop :=
  ∃ layouts, Listing w v t layouts found.errors ∧
    found.entries = Layout.entriesAll v.depth layouts

/-- What is found at the entries of a directory makes up what is found below it. -/
theorem listsEntries_of_lists {v : Visit} {entries : List (Name × FileTree)}
    (hnames : (entries.map (·.1)).Nodup) {cross : Visit → FileTree → Walked}
    (h : ∀ e ∈ entries, w.Lists (v.child e.1) e.2 (w.visitTree cross (v.child e.1) e.2)) :
    ∃ children, ListsEntries w v entries children
        (Walked.concat (inNameOrder (w.visitEntries cross v entries))).errors ∧
      (Walked.concat (inNameOrder (w.visitEntries cross v entries))).entries
        = Layout.entriesAll (v.depth + 1) children := by
  have hperm := sortByName_perm entries
  -- One choice of layouts for each entry, in the order of the walk.
  choose! layouts hlisting hentries using fun e (he : e ∈ sortByName entries) =>
    h e (hperm.mem_iff.1 he)
  rw [visitEntries_eq_map, inNameOrder_map]
  refine ⟨(sortByName entries).flatMap layouts, ⟨sortByName entries, layouts, _, hperm,
    sortByName_rising hnames, hlisting, rfl, ?_⟩, ?_⟩
  · rw [Walked.errors_concat, List.map_map]
    rfl
  · rw [Walked.entries_concat, List.flatMap_map, Layout.entriesAll_eq_flatMap, List.flatMap_assoc]
    refine List.flatMap_congr fun e he => ?_
    rw [hentries e he, Layout.entriesAll_eq_flatMap]
    rfl

end Walker

/-! ## Single places -/

namespace Visit

def IsNamed (v : Visit) : Prop :=
  ∃ (l : Location) (name : Name), v.location = l ++ [name] ∧ name.IsProper

theorem name_child (v : Visit) (name : Name) : (v.child name).name = name := by
  simp [Visit.name, child]

theorem isNamed_child (v : Visit) {name : Name} (h : name.IsProper) : (v.child name).IsNamed :=
  ⟨v.location, name, rfl, h⟩

/-- The language of a place is told by its name. -/
theorem IsNamed.ofPath?_path {v : Visit} (h : v.IsNamed) :
    Language.ofPath? v.path = Language.ofFileName? v.name := by
  obtain ⟨l, name, hlocation, hname⟩ := h
  simp [path, Visit.name, hlocation, Language.ofPath?_ofLocation_append l hname]

def inside (v : Visit) : FileTree → List Location
  | .directory _ => v.real :: v.around
  | _ => v.around

end Visit

namespace Walker

variable {w : Walker}

/-- What a visit finds in a file is what the rules list. -/
theorem visitFile_lists {v : Visit} {t : FileTree} (hv : v.IsNamed) (ht : t.IsFile) :
    w.Lists v t (w.visitFile v) := by
  rw [visitFile, hv.ofPath?_path]
  cases hlanguage : Language.ofFileName? v.name with
  | none =>
    have hother : ∀ language : Language, ¬language.Names v.name := fun language hname => by
      simp [Language.ofFileName?_eq_some.2 hname] at hlanguage
    exact ⟨[], .otherFile ht hother, rfl⟩
  | some language =>
    have hname : language.Names v.name := Language.ofFileName?_eq_some.1 hlanguage
    cases hignored : w.filter.ignores v.path false with
    | true => exact ⟨[], .ignoredFile ht hignored, rfl⟩
    | false => exact ⟨_, .script ht hname hignored, rfl⟩

/-- What a visit finds in a directory that may not be listed is what the rules list. -/
theorem visitSealed_lists (v : Visit) : w.Lists v .sealedDirectory (w.visitSealed v) := by
  rw [visitSealed]
  cases hignored : w.filter.ignores v.path true with
  | true => exact ⟨[], .ignoredSealedDirectory hignored, rfl⟩
  | false => exact ⟨_, .sealedDirectory hignored, rfl⟩

/-- What is found behind a link counts as found at the link. -/
theorem lists_link {v : Visit} {target : Path} {trail : Trail} {found : Walked}
    (hfollow : w.followLinks = true) (hlocate : w.files.locate [] v.path = .ok trail)
    (hbars : ¬w.Bars v trail)
    (h : w.Lists { v with real := trail.location } (w.files.node trail) found) :
    w.Lists v (.link target) found := by
  obtain ⟨layouts, hlisting, hentries⟩ := h
  exact ⟨layouts, .link hfollow hlocate hbars hlisting, hentries⟩

/-- A link to a file counts as the file, under the name of the link. -/
theorem lists_link_of_isFile {v : Visit} (hv : v.IsNamed) {target : Path} {trail : Trail}
    (hfollow : w.followLinks = true) (hlocate : w.files.locate [] v.path = .ok trail)
    (hfile : (w.files.node trail).IsFile) : w.Lists v (.link target) (w.visitFile v) := by
  have hbars : ¬w.Bars v trail := by
    rintro (hsealed | ⟨entries, hentries, -⟩)
    · simp [hsealed, FileTree.IsFile] at hfile
    · simp [hentries, FileTree.IsFile] at hfile
  have hinner : w.Lists { v with real := trail.location } (w.files.node trail)
      (w.visitFile v) := visitFile_lists hv hfile
  exact lists_link hfollow hlocate hbars hinner

/-! ## Links that can be followed -/

def unvisited (w : Walker) (around : List Location) : Nat :=
  (w.files.directoryPlaces.toFinset \ around.toFinset).card

/-- There are at most as many unvisited directories as links may be followed. -/
theorem unvisited_le_linkBound (around : List Location) : w.unvisited around ≤ w.linkBound := by
  have hlength : w.files.directoryPlaces.length = w.linkBound := by
    simp [FileSystem.directoryPlaces, FileTree.length_directoryPlaces, linkBound,
      FileTree.countDirectories]
  calc w.unvisited around ≤ w.files.directoryPlaces.toFinset.card :=
        Finset.card_le_card Finset.sdiff_subset
    _ ≤ w.linkBound := hlength ▸ List.toFinset_card_le _

theorem unvisited_cons_le (l : Location) (around : List Location) :
    w.unvisited (l :: around) ≤ w.unvisited around :=
  Finset.card_le_card (Finset.sdiff_subset_sdiff (Finset.Subset.refl _) (by simp))

/-- A directory that is entered anew is one less outside. -/
theorem unvisited_cons_lt {l : Location} {around : List Location}
    (hplace : l ∈ w.files.directoryPlaces) (hnew : l ∉ around) :
    w.unvisited (l :: around) < w.unvisited around := by
  refine Finset.card_lt_card (Finset.ssubset_iff_of_subset ?_ |>.2 ⟨l, ?_, ?_⟩)
  · exact Finset.sdiff_subset_sdiff (Finset.Subset.refl _) (by simp)
  · simp [hplace, hnew]
  · simp

/-! ## Visits -/

/-- What a visit finds behind a link is what the rules list, if the visit behind it goes on to list
what they do. -/
theorem visitLink_lists {n : Nat} {cross : Visit → FileTree → Walked}
    (hcross : ∀ (v : Visit) (entries : List (Name × FileTree)), v.IsNamed →
      (FileTree.directory entries).WellFormed → w.unvisited (v.real :: v.around) < n →
        w.Lists v (.directory entries) (cross v (.directory entries)))
    (hfs : w.files.WellFormed) {v : Visit} (hv : v.IsNamed) {target : Path}
    (hn : w.unvisited v.around ≤ n) : w.Lists v (.link target) (w.visitLink cross v) := by
  rw [visitLink]
  cases hfollow : w.followLinks with
  | false => exact ⟨[], .linkNotFollowed hfollow, rfl⟩
  | true =>
    cases hlocate : w.files.locate [] v.path with
    | error e => exact ⟨[], .brokenLink hfollow hlocate, rfl⟩
    | ok trail =>
      have hleads : w.files.Leads trail := FileSystem.locate_leads (by trivial) hlocate
      cases hnode : w.files.node trail with
      | directory entries =>
        have hwell := hleads.wellFormed_node hfs
        have hplace := hleads.location_mem hnode
        by_cases hloop : trail.location ∈ v.around
        · have hbars : w.Bars v trail := .inr ⟨entries, hnode, hloop⟩
          exact ⟨[], by simpa [hnode, hloop] using .barredLink hfollow hlocate hbars,
            by simp [hnode, hloop, Walked.failed, Layout.entriesAll]⟩
        · -- The directory is entered anew, so that one link less suffices from there on.
          have hbars : ¬w.Bars v trail := by simp [Bars, hnode, hloop]
          have hlt := lt_of_lt_of_le (unvisited_cons_lt hplace hloop) hn
          have hinner := hcross { v with real := trail.location } entries hv (hnode ▸ hwell) hlt
          simpa [hnode, hloop] using lists_link hfollow hlocate hbars (hnode ▸ hinner)
      | file bytes =>
        have hfile : (w.files.node trail).IsFile := by simp [hnode, FileTree.IsFile]
        simpa [hnode] using lists_link_of_isFile hv hfollow hlocate hfile
      | sealedFile size =>
        have hfile : (w.files.node trail).IsFile := by simp [hnode, FileTree.IsFile]
        simpa [hnode] using lists_link_of_isFile hv hfollow hlocate hfile
      | sealedDirectory =>
        exact ⟨[], by simpa [hnode] using .barredLink hfollow hlocate (.inl hnode),
          by simp [hnode, Walked.failed, Layout.entriesAll]⟩
      | link other =>
        -- A path never leads to a link.
        have hsolid := hleads.isSolid_node
        rw [hnode] at hsolid
        exact absurd hsolid (by simp [FileTree.IsSolid])

/-- A visit of a place lists what the rules say, if directories behind links are visited by a
function that does so with fewer directories outside. -/
theorem visitTree_lists {n : Nat} {cross : Visit → FileTree → Walked}
    (hcross : ∀ (v : Visit) (entries : List (Name × FileTree)), v.IsNamed →
      (FileTree.directory entries).WellFormed → w.unvisited (v.real :: v.around) < n →
        w.Lists v (.directory entries) (cross v (.directory entries)))
    (hfs : w.files.WellFormed) (t : FileTree) (ht : t.WellFormed) (v : Visit) (hv : v.IsNamed)
    (hn : w.unvisited (v.inside t) ≤ n) : w.Lists v t (w.visitTree cross v t) := by
  induction t using FileTree.induction generalizing v with
  | file bytes => exact visitFile_lists hv trivial
  | sealedFile size => exact visitFile_lists hv trivial
  | sealedDirectory => exact visitSealed_lists v
  | directory entries ih =>
    rw [FileTree.wellFormed_directory_iff] at ht
    rw [visitTree]
    cases hignored : w.filter.ignores v.path true with
    | true => exact ⟨[], .ignoredDirectory hignored, rfl⟩
    | false =>
      have hchildren : ∀ e ∈ entries,
          w.Lists (v.child e.1) e.2 (w.visitTree cross (v.child e.1) e.2) := by
        intro e he
        obtain ⟨hname, hwell⟩ := ht.2 e he
        refine ih e he hwell _ (v.isNamed_child hname) (le_trans ?_ hn)
        -- Only a directory adds to the places around.
        cases e.2 with
        | directory inner => exact unvisited_cons_le _ _
        | _ => exact le_rfl
      obtain ⟨children, hlists, hentries⟩ := listsEntries_of_lists ht.1 hchildren
      refine ⟨[.directory v.name children], ?_, ?_⟩
      · have := Listing.of_listsEntries hignored hlists
        simpa [Walked.append] using this
      · simp [Walked.append, hentries, Layout.entriesAll, Layout.entries]
  | link target => exact visitLink_lists hcross hfs hv hn

/-- A visit with enough links to follow lists what the rules say. -/
theorem visit_lists (hfs : w.files.WellFormed) (n : Nat) (t : FileTree) (ht : t.WellFormed)
    (v : Visit) (hv : v.IsNamed) (hn : w.unvisited (v.inside t) ≤ n) :
    w.Lists v t (w.visit n v t) := by
  -- The bound on the links is the number of directories that are left; with none left, no link
  -- leads into a directory anew.
  induction n generalizing t v with
  | zero => exact visitTree_lists (fun _ _ _ _ hbad => absurd hbad (by omega)) hfs t ht v hv hn
  | succ n ih =>
    refine visitTree_lists (fun u entries hu hentries hlt => ?_) hfs t ht v hv hn
    exact ih _ hentries u hu (Nat.le_of_lt_succ hlt)

/-- A walk lists what the rules say of the entries of its root. -/
theorem walk_lists (hfs : w.files.WellFormed) {root : Location} {trail : Trail}
    {entries : List (Name × FileTree)} (hlocate : w.files.locate [] (.ofLocation root) = .ok trail)
    (hnode : w.files.node trail = .directory entries) :
    ∃ children, ListsEntries w ⟨0, root, trail.location, []⟩ entries children (w.walk root).errors ∧
      (w.walk root).entries = Layout.entriesAll 1 children := by
  have hleads : w.files.Leads trail := FileSystem.locate_leads (by trivial) hlocate
  have hwell := hleads.wellFormed_node hfs
  rw [hnode, FileTree.wellFormed_directory_iff] at hwell
  rw [walk, hlocate]
  simp only [hnode]
  refine listsEntries_of_lists hwell.1 fun e he => ?_
  obtain ⟨hname, hinner⟩ := hwell.2 e he
  exact visit_lists hfs (w.linkBound + 1) e.2 hinner _ (Visit.isNamed_child _ hname)
    (le_trans (unvisited_le_linkBound _) (Nat.le_succ _))

end Walker

end CodeAtlas
