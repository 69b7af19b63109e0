import Mathlib.Data.List.TakeWhile
import CodeAtlas.Proofs.NameCounts
import CodeAtlas.Text.Split

/-!
# The lines of a summary

A summary is read line by line: a figure stands behind its label, and a block under its heading.

- `textLines`, `textLines_unlines`: the lines of a text, and those it was made of.
- `figure?`: what stands behind a label.
- `under?`: the lines under a heading.
- `Carries`: how a line may begin.
- `figure?_append`, `figure?_of_mem`: lines with other labels are passed over.
- `under?_append`: a block is found under its heading.
-/

namespace CodeAtlas

/-! ## Reading lines -/

def OneLine (text : String) : Prop := '\n' ∉ text.toList

instance (text : String) : Decidable (OneLine text) := inferInstanceAs (Decidable (_ ∉ _))

theorem OneLine.append {a b : String} (ha : OneLine a) (hb : OneLine b) : OneLine (a ++ b) := by
  rw [OneLine, String.toList_append, List.mem_append]
  exact not_or.2 ⟨ha, hb⟩

/-- A digit is no line feed. -/
theorem newline_notMem_toDigits (n : Nat) : '\n' ∉ Nat.toDigits 10 n := by
  intro hmem
  have hdigit := Nat.isDigit_of_mem_toDigits (by decide) (by decide) hmem
  cases hdigit

theorem oneLine_toString (n : Nat) : OneLine (toString n) := by
  rw [OneLine, Nat.toString_eq_repr, Nat.toList_repr]
  exact newline_notMem_toDigits n

/-- The lines of a text; the last one stands behind the last line feed. -/
def textLines (text : String) : List String :=
  (splitWhere (· == '\n') text.toList).map String.ofList

/-- Lines that were put together are told apart. -/
theorem textLines_unlines_append {lines : List String} (h : ∀ line ∈ lines, OneLine line)
    (rest : String) : textLines (ProjectMap.unlines lines ++ rest) = lines ++ textLines rest := by
  -- The first line feed ends the first line, since the line itself holds none.
  induction lines with
  | nil => simp [ProjectMap.unlines]
  | cons line lines ih =>
    have hline : ∀ c ∈ line.toList, (c == '\n') = false := by
      intro c hc
      simpa using ne_of_mem_of_not_mem hc (h line List.mem_cons_self)
    have hrest := ih fun l hl => h l (List.mem_cons_of_mem _ hl)
    have htext : (ProjectMap.unlines (line :: lines) ++ rest).toList
        = line.toList ++ '\n' :: (ProjectMap.unlines lines ++ rest).toList := by
      simp [ProjectMap.unlines]
    rw [textLines, htext, splitWhere_append_separator _ (by decide),
      splitWhere_eq_singleton _ hline, List.singleton_append, List.map_cons, String.ofList_toList,
      List.cons_append, ← hrest, textLines]

/-- Lines without line feeds that were joined are told apart again. -/
theorem textLines_unlines {lines : List String} (h : ∀ line ∈ lines, OneLine line) :
    textLines (ProjectMap.unlines lines) = lines ++ [""] := by
  have hlines := textLines_unlines_append h ""
  rwa [String.append_empty] at hlines

/-- What stands behind a label at the beginning of a line. -/
def behind? (label line : String) : Option String :=
  if label.toList.isPrefixOf line.toList then
    some (String.ofList (line.toList.drop label.toList.length))
  else none

/-- What stands behind a label in the first line that begins with it. -/
def figure? (label : String) (lines : List String) : Option String :=
  lines.findSome? (behind? label)

/-- The lines under a heading, up to a line that is empty. -/
def under? (heading : String) (lines : List String) : Option (List String) :=
  match lines.dropWhile (· ≠ heading) with
  | [] => none
  | _ :: rest => some (rest.takeWhile (· ≠ ""))

/-! ## Labels -/

/-- Two labels differ at some place, whatever stands behind them. -/
def Apart (label other : String) : Prop :=
  (label.toList.zip other.toList).any (fun p => p.1 != p.2) = true

instance (label other : String) : Decidable (Apart label other) :=
  inferInstanceAs (Decidable (_ = true))

theorem isPrefixOf_append_of_any {label other : List Char}
    (h : (label.zip other).any (fun p => p.1 != p.2) = true) (x : List Char) :
    label.isPrefixOf (other ++ x) = false := by
  induction label generalizing other with
  | nil => simp at h
  | cons c cs ih =>
    cases other with
    | nil => simp at h
    | cons d ds =>
      rw [List.zip_cons_cons, List.any_cons, Bool.or_eq_true] at h
      rw [List.cons_append, List.isPrefixOf_cons_cons, Bool.and_eq_false_iff]
      rcases h with hne | hrest
      · exact .inl (by simpa using hne)
      · exact .inr (ih hrest)

theorem behind?_of_apart {label other : String} (h : Apart label other) (x : String) :
    behind? label (other ++ x) = none := by
  rw [behind?, String.toList_append, isPrefixOf_append_of_any h, if_neg Bool.false_ne_true]

/-- Behind a label stands what was put there. -/
theorem behind?_append (label x : String) : behind? label (label ++ x) = some x := by
  have hpre : label.toList.isPrefixOf (label.toList ++ x.toList) = true := by
    rw [List.isPrefixOf_iff_prefix]
    exact List.prefix_append _ _
  rw [behind?, String.toList_append, if_pos hpre, List.drop_left, String.ofList_toList]

/-- A line is empty, or it begins with one of some labels. -/
def Carries (labels : List String) (line : String) : Prop :=
  line = "" ∨ ∃ other ∈ labels, ∃ x, line = other ++ x

theorem Carries.mono {labels more : List String} {line : String} (h : Carries labels line)
    (hsub : labels ⊆ more) : Carries more line := by
  rcases h with hempty | ⟨other, hother, x, hx⟩
  · exact .inl hempty
  · exact .inr ⟨other, hsub hother, x, hx⟩

/-- All labels differ from another one, which is not empty. -/
def AllApart (label : String) (labels : List String) : Prop :=
  label ≠ "" ∧ ∀ other ∈ labels, Apart label other

instance (label : String) (labels : List String) : Decidable (AllApart label labels) :=
  inferInstanceAs (Decidable (_ ∧ _))

/-- A label is not found in a line that carries labels apart from it. -/
theorem Carries.behind?_eq_none {labels : List String} {line label : String}
    (h : Carries labels line) (hapart : AllApart label labels) : behind? label line = none := by
  rcases h with rfl | ⟨other, hother, x, rfl⟩
  · have hfull : label.toList.isPrefixOf [] = false := by
      cases hlist : label.toList with
      | nil => exact absurd (String.toList_eq_nil_iff.1 hlist) hapart.1
      | cons c cs => rfl
    simp [behind?, hfull]
  · exact behind?_of_apart (hapart.2 other hother) x

theorem Carries.ne {labels : List String} {line label : String} (h : Carries labels line)
    (hapart : AllApart label labels) : line ≠ label := by
  rintro rfl
  have hnone := h.behind?_eq_none hapart
  have hself := behind?_append line ""
  rw [String.append_empty, hnone] at hself
  cases hself

/-- Behind a label that no line has stands nothing. -/
theorem figure?_eq_none {label : String} {labels lines : List String}
    (hlines : ∀ line ∈ lines, Carries labels line) (hapart : AllApart label labels) :
    figure? label lines = none := by
  rw [figure?, List.findSome?_eq_none_iff]
  exact fun line hline => (hlines line hline).behind?_eq_none hapart

/-- Lines with other labels are passed over. -/
theorem figure?_append {label : String} {labels front : List String}
    (hfront : ∀ line ∈ front, Carries labels line) (hapart : AllApart label labels)
    (rest : List String) : figure? label (front ++ rest) = figure? label rest := by
  have hnone := figure?_eq_none hfront hapart
  rw [figure?] at hnone
  rw [figure?, List.findSome?_append, hnone, Option.none_or, figure?]

/-- The first line with a label tells its figure. -/
theorem figure?_cons (label x : String) (rest : List String) :
    figure? label ((label ++ x) :: rest) = some x := by
  rw [figure?, List.findSome?_cons, behind?_append]

def figureLine (p : String × Nat) : String := p.1 ++ toString p.2

/-- Among figures with labels that differ, each stands behind its own label. -/
theorem figure?_of_mem {figures : List (String × Nat)} {label : String} {n : Nat}
    (hapart : (figures.map (·.1)).Pairwise fun a b => Apart b a) (hmem : (label, n) ∈ figures)
    (rest : List String) :
    figure? label (figures.map figureLine ++ rest) = some (toString n) := by
  -- The figures in front have other labels, so the induction passes over them one by one.
  induction figures with
  | nil => cases hmem
  | cons p figures ih =>
    rw [List.map_cons, List.pairwise_cons] at hapart
    rw [List.map_cons, List.cons_append]
    rcases List.mem_cons.1 hmem with rfl | hmem
    · exact figure?_cons _ _ _
    · have hother := hapart.1 label (List.mem_map_of_mem hmem)
      rw [figure?, List.findSome?_cons, figureLine, behind?_of_apart hother]
      exact ih hapart.2 hmem

/-- Under a heading that stands nowhere else before it are the lines up to the next empty one. -/
theorem under?_append {heading : String} {labels front block : List String}
    (hfront : ∀ line ∈ front, Carries labels line) (hapart : AllApart heading labels)
    (hblock : ∀ line ∈ block, line ≠ "") (rest : List String) :
    under? heading (front ++ heading :: (block ++ "" :: rest)) = some block := by
  have hpassed : ∀ line ∈ front, decide (line ≠ heading) = true := by
    intro line hline
    simpa using (hfront line hline).ne hapart
  have htaken : ∀ line ∈ block, decide (line ≠ "") = true := by
    intro line hline
    simpa using hblock line hline
  rw [under?, List.dropWhile_append_of_pos hpassed, List.dropWhile_cons_of_neg (by simp)]
  dsimp only
  rw [List.takeWhile_append_of_pos htaken, List.takeWhile_cons_of_neg (by simp), List.append_nil]

/-- A heading apart from all labels of some lines has nothing under it. -/
theorem under?_eq_none {heading : String} {labels lines : List String}
    (hlines : ∀ line ∈ lines, Carries labels line) (hapart : AllApart heading labels) :
    under? heading lines = none := by
  have hpassed : ∀ line ∈ lines, decide (line ≠ heading) = true := by
    intro line hline
    simpa using (hlines line hline).ne hapart
  rw [under?, List.dropWhile_eq_nil_iff.2 hpassed]

end CodeAtlas
