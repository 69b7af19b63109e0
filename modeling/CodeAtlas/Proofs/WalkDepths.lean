import CodeAtlas.Proofs.WalkListing

/-!
# Depths in a walk

What a walk finds at a place lies no higher than the place, also behind links.

- `Walker.Below`: what was found lies at least so many steps below the root.
- `Walker.below_visit`: what a visit finds lies no higher than the place that is visited.
- `Walker.depth_pos_of_mem_walk`: all entries of a walk lie below the root.
-/

namespace CodeAtlas

namespace Walker

variable {w : Walker}

/-- All entries that were found lie at least so many steps below the root. -/
def Below (d : Nat) (found : Walked) : Prop := ∀ e ∈ found.entries, d ≤ e.depth

theorem below_visitFile (v : Visit) : Below v.depth (w.visitFile v) := by
  intro e he
  rw [visitFile] at he
  cases hlanguage : Language.ofPath? v.path with
  | none => simp [hlanguage] at he
  | some language =>
    cases hignored : w.filter.ignores v.path false with
    | true => simp [hlanguage, hignored] at he
    | false =>
      obtain rfl : e = .script v.depth ⟨v.name, v.path, language⟩ := by
        simpa [hlanguage, hignored] using he
      exact Nat.le_refl _

theorem below_visitSealed (v : Visit) : Below v.depth (w.visitSealed v) := by
  intro e he
  cases hignored : w.filter.ignores v.path true with
  | true => simp [visitSealed, hignored] at he
  | false =>
    obtain rfl : e = .directory v.depth v.name := by simpa [visitSealed, hignored] using he
    exact Nat.le_refl _

/-- A link counts at its own depth, wherever it leads. -/
theorem below_visitLink {cross : Visit → FileTree → Walked}
    (hcross : ∀ v t, Below v.depth (cross v t)) (v : Visit) :
    Below v.depth (w.visitLink cross v) := by
  have hfailed : Below v.depth .failed := by
    intro e he
    simp [Walked.failed] at he
  rw [visitLink]
  cases w.followLinks with
  | false =>
    intro e he
    simp at he
  | true =>
    cases w.files.locate [] v.path with
    | error e => exact hfailed
    | ok trail =>
      dsimp only
      cases w.files.node trail with
      | directory entries =>
        dsimp only
        by_cases haround : v.around.contains trail.location = true
        · rw [if_pos haround]
          exact hfailed
        · rw [if_neg haround]
          exact hcross { v with real := trail.location } (.directory entries)
      | file bytes | sealedFile size => exact below_visitFile v
      | sealedDirectory | link target => exact hfailed

/-- What is found at the entries of a directory is found at one of them. -/
theorem exists_of_mem_visitEntries {cross : Visit → FileTree → Walked} {v : Visit}
    {entries : List (Name × FileTree)} {e : WalkEntry}
    (he : e ∈ (Walked.concat (inNameOrder (w.visitEntries cross v entries))).entries) :
    ∃ entry ∈ entries, e ∈ (w.visitTree cross (v.child entry.1) entry.2).entries := by
  rw [visitEntries_eq_map, inNameOrder_map, Walked.entries_concat, List.flatMap_map,
    List.mem_flatMap] at he
  obtain ⟨entry, hentry, he⟩ := he
  exact ⟨entry, (sortByName_perm entries).mem_iff.1 hentry, he⟩

theorem below_visitTree {cross : Visit → FileTree → Walked}
    (hcross : ∀ v t, Below v.depth (cross v t)) (t : FileTree) (v : Visit) :
    Below v.depth (w.visitTree cross v t) := by
  induction t using FileTree.induction generalizing v with
  | file bytes => exact below_visitFile v
  | sealedFile size => exact below_visitFile v
  | sealedDirectory => exact below_visitSealed v
  | link target => exact below_visitLink hcross v
  | directory entries ih =>
    intro e he
    cases hignored : w.filter.ignores v.path true with
    | true => simp [visitTree, hignored] at he
    | false =>
      rw [visitTree, hignored, if_neg Bool.false_ne_true, Walked.append, List.singleton_append,
        List.mem_cons] at he
      rcases he with rfl | he
      · exact Nat.le_refl _
      -- Whatever is found at an entry of the directory lies one step deeper.
      · obtain ⟨entry, hentry, he⟩ := exists_of_mem_visitEntries he
        exact Nat.le_of_succ_le (ih entry hentry (v.child entry.1) e he)

/-- Whatever a walk finds at a place is at least as deep as the place. -/
theorem below_visit (n : Nat) (v : Visit) (t : FileTree) : Below v.depth (w.visit n v t) := by
  induction n generalizing v t with
  | zero =>
    refine below_visitTree (fun v t => ?_) t v
    intro e he
    simp [Walked.failed] at he
  | succ n ih => exact below_visitTree ih t v

/-- No walk meets an entry at depth zero, whatever the file system is. -/
theorem depth_pos_of_mem_walk (w : Walker) (root : Location) :
    ∀ e ∈ (w.walk root).entries, 0 < e.depth := by
  intro e he
  rw [walk] at he
  cases hlocate : w.files.locate [] (.ofLocation root) with
  | error error => simp [hlocate, Walked.failed] at he
  | ok trail =>
    rw [hlocate] at he
    dsimp only at he
    cases hnode : w.files.node trail with
    | directory entries =>
      rw [hnode] at he
      obtain ⟨entry, -, he⟩ := exists_of_mem_visitEntries he
      exact below_visit (w.linkBound + 1) _ entry.2 e he
    | sealedDirectory => simp [hnode, Walked.failed] at he
    | file bytes | sealedFile size | link target => simp [hnode] at he

end Walker

end CodeAtlas
