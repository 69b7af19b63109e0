import Mathlib.Algebra.GroupWithZero.Nat
import Mathlib.Data.String.Basic
import CodeAtlas.Atlas.ProjectMap

/-!
# Counting names

Names are counted one by one in a list that stays ordered by name.

- `Tallies`: a list says how often each of some names occurs.
- `Tallies.countName`: counting one name more.
- `Tallies.foldl_countName`: counting all of some names.
- `Tallies.mem_iff`: what such a list holds.
- `tallies_languageCounts`: the languages of some files are counted.
-/

namespace CodeAtlas

/-- What a list of names with their counts says of a name, all in all. -/
def countOf (name : String) : List (String × Nat) → Nat
  | [] => 0
  | (other, n) :: rest => (if other = name then n else 0) + countOf name rest

theorem countOf_eq_zero {name : String} {counts : List (String × Nat)} :
    (∀ p ∈ counts, p.1 ≠ name) → countOf name counts = 0 := by
  intro hne
  induction counts with
  | nil => rfl
  | cons p rest ih =>
    rw [countOf, if_neg (hne p List.mem_cons_self), Nat.zero_add]
    exact ih fun q hq => hne q (List.mem_cons_of_mem _ hq)

/-- A list that is ordered by name holds a name with what it says of it, if that is more than
nothing. -/
theorem mem_iff_countOf {counts : List (String × Nat)}
    (hrise : counts.Pairwise fun p q => p.1 < q.1) (hpos : ∀ p ∈ counts, 0 < p.2) (name : String)
    (n : Nat) : (name, n) ∈ counts ↔ 0 < n ∧ countOf name counts = n := by
  induction counts with
  | nil =>
    simp only [countOf, List.not_mem_nil, false_iff]
    omega
  | cons q rest ih =>
    obtain ⟨other, m⟩ := q
    obtain ⟨hfirst, hrest⟩ := List.pairwise_cons.1 hrise
    have hm : 0 < m := hpos _ List.mem_cons_self
    have hih := ih hrest fun p hp => hpos p (List.mem_cons_of_mem _ hp)
    by_cases hsame : other = name
    -- The name comes first, and all other names come after it.
    · subst hsame
      have hnone : ∀ p ∈ rest, p.1 ≠ other := fun p hp => (hfirst p hp).ne'
      have hmem : (other, n) ∉ rest := fun hn => hnone _ hn rfl
      simp only [countOf, if_pos, countOf_eq_zero hnone, List.mem_cons, hmem, or_false,
        Prod.mk.injEq, true_and]
      omega
    · have hother : (name, n) ≠ (other, m) := by
        simp [Ne.symm hsame]
      simp only [countOf, if_neg hsame, Nat.zero_add, List.mem_cons, hother, false_or, hih]

/-! ## Counting a name -/

section Counting

variable (name : String)

/-- Only the name itself is added to the names of a list. -/
theorem fst_of_mem_countName {counts : List (String × Nat)} {p : String × Nat} :
    p ∈ countName name counts → p.1 = name ∨ ∃ q ∈ counts, p.1 = q.1 := by
  intro hp
  fun_induction countName name counts with
  | case1 =>
    rw [List.mem_singleton.1 hp]
    exact .inl rfl
  | case2 n rest =>
    rcases List.mem_cons.1 hp with rfl | hp
    · exact .inl rfl
    · exact .inr ⟨p, List.mem_cons_of_mem _ hp, rfl⟩
  | case3 other n rest =>
    rcases List.mem_cons.1 hp with rfl | hp
    · exact .inl rfl
    · exact .inr ⟨p, hp, rfl⟩
  | case4 other n rest _ _ ih =>
    rcases List.mem_cons.1 hp with rfl | hp
    · exact .inr ⟨_, List.mem_cons_self, rfl⟩
    · rcases ih hp with heq | ⟨q, hq, heq⟩
      · exact .inl heq
      · exact .inr ⟨q, List.mem_cons_of_mem _ hq, heq⟩

/-- The list stays ordered: a new name is put in front of the first one that comes after it. -/
theorem pairwise_countName {counts : List (String × Nat)}
    (hrise : counts.Pairwise fun p q => p.1 < q.1) :
    (countName name counts).Pairwise fun p q => p.1 < q.1 := by
  fun_induction countName name counts with
  | case1 => exact List.pairwise_singleton _ _
  | case2 n rest => exact List.pairwise_cons.2 (List.pairwise_cons.1 hrise)
  | case3 other n rest _ hlt =>
    refine List.pairwise_cons.2 ⟨?_, hrise⟩
    intro p hp
    rcases List.mem_cons.1 hp with rfl | hp
    · exact hlt
    · exact lt_trans hlt ((List.pairwise_cons.1 hrise).1 p hp)
  | case4 other n rest hne hnlt ih =>
    obtain ⟨hfirst, hrest⟩ := List.pairwise_cons.1 hrise
    refine List.pairwise_cons.2 ⟨?_, ih hrest⟩
    -- Behind the first name are the names that were there, and perhaps the new one.
    intro p hp
    rcases fst_of_mem_countName name hp with heq | ⟨q, hq, heq⟩
    · rw [heq]
      exact lt_of_le_of_ne (not_lt.1 hnlt) (Ne.symm hne)
    · rw [heq]
      exact hfirst q hq

/-- Counting never gives a name without an occurrence. -/
theorem pos_of_mem_countName {counts : List (String × Nat)} (hpos : ∀ p ∈ counts, 0 < p.2) :
    ∀ p ∈ countName name counts, 0 < p.2 := by
  fun_induction countName name counts with
  | case1 => simp
  | case2 n rest =>
    have hrest : ∀ p ∈ rest, 0 < p.2 := fun p hp => hpos p (List.mem_cons_of_mem _ hp)
    simpa using hrest
  | case3 other n rest => simpa using hpos
  | case4 other n rest _ _ ih =>
    have hn : 0 < n := hpos _ List.mem_cons_self
    have hrest := ih fun p hp => hpos p (List.mem_cons_of_mem _ hp)
    simpa [hn] using hrest

/-- The name counts once more, and no other name does. -/
theorem countOf_countName (x : String) (counts : List (String × Nat)) :
    countOf x (countName name counts) = countOf x counts + if name = x then 1 else 0 := by
  fun_induction countName name counts with
  | case1 => simp [countOf]
  | case2 n rest =>
    simp only [countOf]
    split <;> omega
  | case3 other n rest =>
    simp only [countOf]
    omega
  | case4 other n rest _ _ ih =>
    simp only [countOf, ih]
    omega

/-- Counting a name adds one to the sum of all numbers. -/
theorem sum_countName (counts : List (String × Nat)) :
    ((countName name counts).map (·.2)).sum = (counts.map (·.2)).sum + 1 := by
  fun_induction countName name counts with
  | case1 => rfl
  | case2 n rest | case3 other n rest =>
    simp only [List.map_cons, List.sum_cons]
    omega
  | case4 other n rest _ _ ih =>
    simp only [List.map_cons, List.sum_cons, ih]
    omega

end Counting

/-! ## Counting all names -/

/-- The list is ordered by name and says how often each of some names occurs. -/
structure Tallies (names : List String) (counts : List (String × Nat)) : Prop where
  rising : counts.Pairwise fun p q => p.1 < q.1
  pos : ∀ p ∈ counts, 0 < p.2
  countOf : ∀ name, countOf name counts = names.count name
  sum : (counts.map (·.2)).sum = names.length

namespace Tallies

theorem nil : Tallies [] [] where
  rising := .nil
  pos := by simp
  countOf _ := rfl
  sum := rfl

/-- Counting one name more. -/
theorem countName {names : List String} {counts : List (String × Nat)} (h : Tallies names counts)
    (name : String) : Tallies (names ++ [name]) (countName name counts) where
  rising := pairwise_countName name h.rising
  pos := pos_of_mem_countName name h.pos
  countOf x := by
    rw [countOf_countName, h.countOf, List.count_append, List.count_singleton]
    simp
  sum := by
    rw [sum_countName, h.sum, List.length_append, List.length_singleton]

/-- Counting all of some names. -/
theorem foldl_countName {seen : List String} {counts : List (String × Nat)}
    (h : Tallies seen counts) (names : List String) :
    Tallies (seen ++ names)
      (names.foldl (fun counts name => CodeAtlas.countName name counts) counts) := by
  induction names generalizing seen counts with
  | nil => rwa [List.append_nil]
  | cons name rest ih =>
    rw [List.foldl_cons, ← List.singleton_append, ← List.append_assoc]
    exact ih (h.countName name)

/-- The list holds the names that occur, each with the number of times. -/
theorem mem_iff {names : List String} {counts : List (String × Nat)} (h : Tallies names counts)
    (name : String) (n : Nat) : (name, n) ∈ counts ↔ 0 < n ∧ names.count name = n := by
  rw [mem_iff_countOf h.rising h.pos, h.countOf]

end Tallies

/-! ## Languages -/

/-- Different languages have different names. -/
theorem Language.name_inj {l l' : Language} : l.name = l'.name ↔ l = l' := by
  cases l <;> cases l' <;> decide

/-- The languages of some files are counted by name. -/
theorem tallies_languageCounts (files : List FileNode) :
    Tallies (files.map (·.language.name)) (languageCounts files) := by
  have hall := Tallies.nil.foldl_countName (files.map (·.language.name))
  rwa [List.nil_append, List.foldl_map] at hall

/-- The languages that occur are listed, each with the number of its files. -/
theorem mem_languageCounts (files : List FileNode) (name : String) (n : Nat) :
    (name, n) ∈ languageCounts files ↔
      0 < n ∧ ∃ l : Language, l.name = name ∧ files.countP (·.language = l) = n := by
  have hcount : ∀ l : Language,
      (files.map (·.language.name)).count l.name = files.countP (·.language = l) := by
    intro l
    rw [List.count, List.countP_map]
    refine List.countP_congr fun f _ => ?_
    simp [Language.name_inj]
  rw [(tallies_languageCounts files).mem_iff]
  constructor
  · rintro ⟨hpos, hn⟩
    -- A name that occurs is that of a language.
    have hmem : name ∈ files.map (·.language.name) := List.count_pos_iff.1 (by omega)
    obtain ⟨f, -, rfl⟩ := List.mem_map.1 hmem
    exact ⟨hpos, f.language, rfl, by rw [← hcount, hn]⟩
  · rintro ⟨hpos, l, rfl, hn⟩
    exact ⟨hpos, by rw [hcount, hn]⟩

end CodeAtlas
