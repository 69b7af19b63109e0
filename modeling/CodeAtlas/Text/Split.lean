/-!
# Splitting and joining lists

- `splitWhere`: the parts of a list between the items that a test picks out.
- `joinWith`: parts with a separator between them.
-/

namespace CodeAtlas

/-- The parts of a list between the items that a test picks out; there is one part more than there
are such items. -/
def splitWhere {α : Type} (isSeparator : α → Bool) : List α → List (List α)
  | [] => [[]]
  | x :: xs =>
    if isSeparator x then [] :: splitWhere isSeparator xs
    else
      match splitWhere isSeparator xs with
      | [] => [[x]]
      | part :: parts => (x :: part) :: parts

def joinWith {α : Type} (separator : α) : List (List α) → List α
  | [] => []
  | [part] => part
  | part :: rest => part ++ separator :: joinWith separator rest

theorem splitWhere_ne_nil {α : Type} (isSeparator : α → Bool) (xs : List α) :
    splitWhere isSeparator xs ≠ [] := by
  cases xs with
  | nil => simp [splitWhere]
  | cons x xs =>
    simp only [splitWhere]
    split
    · simp
    · split <;> simp

section Splitting

variable {α : Type} (isSeparator : α → Bool)

theorem splitWhere_cons_separator {x : α} (hx : isSeparator x = true) (xs : List α) :
    splitWhere isSeparator (x :: xs) = [] :: splitWhere isSeparator xs := by
  simp [splitWhere, hx]

/-- A separator parts what is in front of it from what is behind it. -/
theorem splitWhere_append_separator {s : α} (hs : isSeparator s = true) (xs ys : List α) :
    splitWhere isSeparator (xs ++ s :: ys)
      = splitWhere isSeparator xs ++ splitWhere isSeparator ys := by
  induction xs with
  | nil => exact splitWhere_cons_separator isSeparator hs ys
  | cons x xs ih =>
    cases hx : isSeparator x with
    | true => simp [splitWhere, hx, ih]
    | false =>
      cases hparts : splitWhere isSeparator xs with
      | nil => exact absurd hparts (splitWhere_ne_nil isSeparator xs)
      | cons part parts => simp [splitWhere, hx, ih, hparts]

/-- Without a separator there is one part. -/
theorem splitWhere_eq_singleton {xs : List α} (h : ∀ x ∈ xs, isSeparator x = false) :
    splitWhere isSeparator xs = [xs] := by
  induction xs with
  | nil => rfl
  | cons x xs ih =>
    have hx : isSeparator x = false := h x (by simp)
    have hrest := ih fun y hy => h y (by simp [hy])
    simp [splitWhere, hx, hrest]

/-- No part holds a separator. -/
theorem forall_mem_splitWhere (xs : List α) :
    ∀ part ∈ splitWhere isSeparator xs, ∀ x ∈ part, isSeparator x = false := by
  induction xs with
  | nil => simp [splitWhere]
  | cons x xs ih =>
    cases hx : isSeparator x with
    | true => simpa [splitWhere, hx] using ih
    | false =>
      cases hparts : splitWhere isSeparator xs with
      | nil => exact absurd hparts (splitWhere_ne_nil isSeparator xs)
      | cons part parts =>
        rw [hparts] at ih
        intro q hq y hy
        simp only [splitWhere, hx, hparts, Bool.false_eq_true, if_false, List.mem_cons] at hq
        rcases hq with rfl | hq
        · rcases List.mem_cons.1 hy with rfl | hy
          · exact hx
          · exact ih part (by simp) y hy
        · exact ih q (by simp [hq]) y hy

variable {isSeparator} {separator : α}

/-- Parts that are joined and split again come back. -/
theorem splitWhere_joinWith (hs : isSeparator separator = true) {parts : List (List α)}
    (hne : parts ≠ []) (hparts : ∀ part ∈ parts, ∀ x ∈ part, isSeparator x = false) :
    splitWhere isSeparator (joinWith separator parts) = parts := by
  induction parts with
  | nil => exact absurd rfl hne
  | cons part rest ih =>
    have hpart := hparts part (by simp)
    cases rest with
    | nil => exact splitWhere_eq_singleton isSeparator hpart
    | cons next rest =>
      have hrest := ih (by simp) fun q hq => hparts q (by simp [hq])
      rw [joinWith, splitWhere_append_separator isSeparator hs, hrest,
        splitWhere_eq_singleton isSeparator hpart]
      · rfl
      · simp

/-- A list that is split and joined again comes back. -/
theorem joinWith_splitWhere (hs : ∀ x, isSeparator x = true → x = separator) (xs : List α) :
    joinWith separator (splitWhere isSeparator xs) = xs := by
  induction xs with
  | nil => rfl
  | cons x xs ih =>
    cases hparts : splitWhere isSeparator xs with
    | nil => exact absurd hparts (splitWhere_ne_nil isSeparator xs)
    | cons part parts =>
      rw [hparts] at ih
      cases hx : isSeparator x with
      | true =>
        have hsep := hs x hx
        subst hsep
        simp [splitWhere, hx, hparts, joinWith, ih]
      | false =>
        cases parts with
        | nil => simpa [splitWhere, hx, hparts, joinWith] using ih
        | cons next parts => simpa [splitWhere, hx, hparts, joinWith] using ih

/-- The last of several parts stands behind a separator. -/
theorem joinWith_append_singleton {parts : List (List α)} (hne : parts ≠ []) (last : List α) :
    joinWith separator (parts ++ [last]) = joinWith separator parts ++ separator :: last := by
  induction parts with
  | nil => exact absurd rfl hne
  | cons part rest ih =>
    cases rest with
    | nil => rfl
    | cons next rest =>
      have hrest := ih (by simp)
      simp only [List.cons_append, joinWith] at hrest ⊢
      simp [hrest]

end Splitting

end CodeAtlas
