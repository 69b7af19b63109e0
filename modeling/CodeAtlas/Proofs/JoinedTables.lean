import CodeAtlas.Grammar.Tsx
import CodeAtlas.Parsing.Table

/-!
# Tables as single numbers

All numbers of a packed sequence are digits of one large number. An automaton that takes them from
there is the same one, and runs of it can be computed within proofs.

- `Packed.joined`, `Packed.look`: the large number, and a digit of it.
- `Packed.Fits`: sequences whose pages do not overlap.
- `Packed.look_eq_get`: the digits are the numbers of such a sequence.
- `Table.joinedAutomaton`: the automaton of a table, with numbers that are looked up in this way.
- `Table.automaton_eq_joined`: it is the automaton of the table.
- `Tsx.grammar_eq_joined`: the grammar with types and elements.
-/

namespace CodeAtlas

namespace Packed

/-- Some pages of a number of bits each as one number, the first page in the last bits. -/
def joinPages (bits : Nat) : List Nat → Nat
  | [] => 0
  | page :: rest => Nat.pow 2 bits * joinPages bits rest + page

/-- All numbers of a sequence as one number. -/
def joined (k : Packed) : Nat := joinPages (k.width * k.perPage) k.pages.toList

/-- The number at an index, taken from the large number. -/
def look (k : Packed) (i : Nat) : Nat := (k.joined >>> (k.width * i)) % Nat.pow 2 k.width

/-- No page has more bits than its numbers, and there is nothing behind the last number. -/
structure Fits (k : Packed) : Prop where
  width_pos : 0 < k.width
  perPage_pos : 0 < k.perPage
  pages : ∀ page ∈ k.pages.toList, page < Nat.pow 2 (k.width * k.perPage)
  joined_lt : k.joined < Nat.pow 2 (k.width * k.size)

/-- Checks whether a sequence fits. -/
def fits (k : Packed) : Bool :=
  decide (0 < k.width) && decide (0 < k.perPage)
    && k.pages.toList.all (fun page => decide (page < Nat.pow 2 (k.width * k.perPage)))
    && decide (k.joined < Nat.pow 2 (k.width * k.size))

theorem fits_iff {k : Packed} : k.fits = true ↔ k.Fits := by
  simp only [fits, Bool.and_eq_true, decide_eq_true_eq, List.all_eq_true]
  constructor
  · rintro ⟨⟨⟨hwidth, hperPage⟩, hpages⟩, hjoined⟩
    exact ⟨hwidth, hperPage, hpages, hjoined⟩
  · rintro ⟨hwidth, hperPage, hpages, hjoined⟩
    exact ⟨⟨⟨hwidth, hperPage⟩, hpages⟩, hjoined⟩

/-- Each bit of the large number is a bit of one page. -/
theorem testBit_joinPages {bits : Nat} (hbits : 0 < bits) {pages : List Nat}
    (h : ∀ page ∈ pages, page < Nat.pow 2 bits) (j : Nat) :
    (joinPages bits pages).testBit j = (pages.getD (j / bits) 0).testBit (j % bits) := by
  induction pages generalizing j with
  | nil => simp [joinPages]
  | cons page rest ih =>
    rw [List.forall_mem_cons] at h
    refine (Nat.testBit_two_pow_mul_add (joinPages bits rest) h.1 j).trans ?_
    by_cases hj : j < bits
    · rw [if_pos hj, Nat.div_eq_of_lt hj, Nat.mod_eq_of_lt hj, List.getD_cons_zero]
    · have hle : bits ≤ j := Nat.le_of_not_lt hj
      rw [if_neg hj, ih h.2, Nat.div_eq_sub_div hbits hle, List.getD_cons_succ,
        Nat.mod_eq_sub_mod hle]

namespace Fits

variable {k : Packed}

/-- The bits of a number are those of its page. -/
theorem testBit_joined (h : k.Fits) (i : Nat) {j : Nat} (hj : j < k.width) :
    k.joined.testBit (k.width * i + j)
      = (k.pages.getD (i / k.perPage) 0).testBit (k.width * (i % k.perPage) + j) := by
  have hquotient : (k.width * i + j) / k.width = i := by
    rw [Nat.mul_add_div h.width_pos, Nat.div_eq_of_lt hj, Nat.add_zero]
  have hremainder : (k.width * i + j) % k.width = j := by
    rw [Nat.mul_add_mod, Nat.mod_eq_of_lt hj]
  have hpage : k.pages.toList.getD (i / k.perPage) 0 = k.pages.getD (i / k.perPage) 0 := by
    simp [List.getD_eq_getElem?_getD]
  rw [joined, testBit_joinPages (Nat.mul_pos h.width_pos h.perPage_pos) h.pages,
    ← Nat.div_div_eq_div_mul, hquotient, Nat.mod_mul, hquotient, hremainder, hpage, Nat.add_comm]

/-- Looking a number up in the large number gives the number. -/
theorem look_eq_get (h : k.Fits) (i : Nat) : k.look i = k.get i := by
  by_cases hi : i < k.size
  · rw [look, get, if_pos hi]
    have hbit : ∀ n j, (n % Nat.pow 2 k.width).testBit j = (decide (j < k.width) && n.testBit j) :=
      fun n j => Nat.testBit_mod_two_pow n k.width j
    refine Nat.eq_of_testBit_eq fun j => ?_
    rw [hbit, hbit, Nat.testBit_shiftRight, Nat.testBit_shiftRight]
    by_cases hj : j < k.width
    · rw [h.testBit_joined i hj]
    · simp [hj]
  · have hle : k.width * k.size ≤ k.width * i := Nat.mul_le_mul_left _ (Nat.le_of_not_lt hi)
    have hzero : k.joined >>> (k.width * i) = 0 :=
      Nat.shiftRight_eq_zero _ _ (Nat.lt_of_lt_of_le h.joined_lt (Nat.pow_le_pow_right (by decide) hle))
    rw [look, hzero, Nat.zero_mod, get, if_neg hi]

end Fits

end Packed

namespace Table

/-- The sequences of a table. -/
def sequences (t : Table) : List Packed :=
  [t.actionRow, t.gotoRow, t.lexMode, t.contextMode, t.actionBase, t.actionFirst, t.actionColumns,
    t.actionValue, t.gotoBase, t.gotoFirst, t.gotoColumns, t.gotoValue, t.tokenSet, t.listFirst,
    t.listAction, t.reductionSymbol, t.reductionCount, t.reductionPrecedence,
    t.reductionProduction]

/-- The reduction with a number, if there is one. -/
def joinedReduction (t : Table) (i : Nat) : Reduction :=
  if i < t.reductionSymbol.size then
    { symbol := t.reductionSymbol.look i
      count := t.reductionCount.look i
      precedence := (t.reductionPrecedence.look i : Int) - 1
      production := t.reductionProduction.look i }
  else default

/-- The automaton of a table, with all numbers looked up when they are wanted. -/
def joinedAutomaton (t : Table) (tokenCount : Nat) : Automaton where
  actionRow := t.actionRow.look
  gotoRow := t.gotoRow.look
  lexMode := t.lexMode.look
  contextMode := t.contextMode.look
  actionRows :=
    { base := t.actionBase.look
      first := t.actionFirst.look
      columns := t.actionColumns.look
      value := t.actionValue.look }
  gotoRows :=
    { base := t.gotoBase.look
      first := t.gotoFirst.look
      columns := fun i => t.gotoColumns.look i + tokenCount
      value := t.gotoValue.look }
  tokenSet := t.tokenSet.look
  actionList := fun i =>
    let start := t.listFirst.look i
    let stop := min (t.listFirst.look (i + 1)) t.listAction.size
    (List.range (stop - start)).map fun n => action t.joinedReduction (t.listAction.look (start + n))

/-- A part of a sequence, with each number read as something. -/
theorem toList_extract_toArray {α : Type} (k : Packed) (f : Nat → α) (start stop : Nat) :
    ((k.toArray.map f).extract start stop).toList
      = (List.range (min stop k.size - start)).map fun n => f (k.get (start + n)) := by
  refine List.ext_getElem ?_ fun n hn hn' => by simp [Packed.toArray]
  simp only [Packed.toArray, Array.length_toList, Array.size_extract, Array.size_map,
    Array.size_ofFn, List.length_map, List.length_range]

theorem getD_map_range {α : Type} (n : Nat) (f : Nat → α) (other : α) (i : Nat) :
    ((Array.range n).map f).getD i other = if i < n then f i else other := by
  by_cases hi : i < n <;> simp [Array.getD, hi]

/-- The automaton of a table is the one with numbers that are looked up. -/
theorem automaton_eq_joined {t : Table} (h : ∀ k ∈ t.sequences, k.Fits) (tokenCount : Nat) :
    t.automaton tokenCount = t.joinedAutomaton tokenCount := by
  have hget : ∀ k ∈ t.sequences, ∀ i, k.get i = k.look i := fun k hk i =>
    ((h k hk).look_eq_get i).symm
  simp only [sequences, List.forall_mem_cons] at hget
  have hreduction : (fun i => ((Array.range t.reductionSymbol.size).map t.reduction).getD i default)
      = t.joinedReduction := by
    funext i
    rw [getD_map_range, joinedReduction]
    simp only [reduction, hget]
  simp only [automaton, joinedAutomaton, hreduction, toList_extract_toArray, Packed.getD_toArray,
    hget]

/-- Checks whether the sequences of a table fit. -/
def fits (t : Table) : Bool := t.sequences.all Packed.fits

theorem automaton_eq_joined_of_fits {t : Table} (h : t.fits = true) (tokenCount : Nat) :
    t.automaton tokenCount = t.joinedAutomaton tokenCount :=
  automaton_eq_joined (fun k hk => Packed.fits_iff.1 (List.all_eq_true.1 h k hk)) tokenCount

end Table

namespace Tsx

theorem fits_table : table.fits = true := by decide +kernel

/-- The grammar with types and elements, with an automaton that can be run within proofs. -/
def joinedGrammar : Grammar :=
  { grammar with automaton := table.joinedAutomaton grammar.tokenCount }

theorem grammar_eq_joined : grammar = joinedGrammar := by
  have hautomaton : grammar.automaton = table.joinedAutomaton grammar.tokenCount :=
    Table.automaton_eq_joined_of_fits fits_table _
  rw [joinedGrammar, ← hautomaton]

end Tsx

end CodeAtlas
