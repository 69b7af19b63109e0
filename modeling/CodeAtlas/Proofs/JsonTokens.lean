import Mathlib.Data.Nat.Digits.Defs
import CodeAtlas.Json.Reader
import CodeAtlas.Json.Value

/-!
# Strings and numbers in JSON

What is written of a text or of a number is read back, whatever stands behind it.

- `escapeChar_cases`: what may be written for a character.
- `readStringFrom_escapeChar`: the text for one character is read as this character.
- `readStringFrom_quote`: a string literal is read back.
- `takeDigits_append`, `ofDigitChars_digits`: so are the digits of a number.
-/

namespace CodeAtlas

/-! ## Characters -/

/-- A character stands for itself, or it is written as an escape of one letter, or as one of four
digits. -/
theorem escapeChar_cases (c : Char) :
    (escapeChar c = [c] ∧ c ≠ '"' ∧ c ≠ '\\' ∧ 0x20 ≤ c.toNat) ∨
    (∃ d, escapeChar c = ['\\', d] ∧ d ≠ 'u' ∧ simpleEscape? d = some c) ∨
    (c.toNat < 0x20 ∧ escapeChar c
      = ['\\', 'u', '0', '0', hexDigit (c.toNat / 16), hexDigit (c.toNat % 16)]) := by
  unfold escapeChar
  split
  case h_8 hquote hslash _ _ _ _ _ =>
    by_cases hcontrol : c.toNat < 0x20
    · exact .inr (.inr ⟨hcontrol, if_pos hcontrol⟩)
    · exact .inl ⟨if_neg hcontrol, hquote, hslash, Nat.le_of_not_lt hcontrol⟩
  all_goals exact .inr (.inl ⟨_, rfl, by decide, by decide⟩)

theorem hexValue?_hexDigit : ∀ n < 16, hexValue? (hexDigit n) = some n := by decide

theorem utf8Size_hexDigit : ∀ n < 16, (hexDigit n).utf8Size = 1 := by decide

/-- A digit neither ends a string nor begins an escape. -/
theorem hexDigit_ne : ∀ n < 16, hexDigit n ≠ '"' ∧ hexDigit n ≠ '\\' := by decide

/-- Four digits, of which the first two are zero, are the number of a control character. -/
theorem finishHex_control {c : Char} (hc : c.toNat < 0x20) :
    finishHex true none ['0', '0', hexDigit (c.toNat / 16), hexDigit (c.toNat % 16)]
      = .ok (.plain, [c]) := by
  have hhigh := hexValue?_hexDigit (c.toNat / 16) (by omega)
  have hlow := hexValue?_hexDigit (c.toNat % 16) (by omega)
  have hzero : hexValue? '0' = some 0 := by decide
  have hnumber : hexNumber? ['0', '0', hexDigit (c.toNat / 16), hexDigit (c.toNat % 16)]
      = some c.toNat := by
    have hvalue : 16 * (c.toNat / 16) + c.toNat % 16 = c.toNat := by omega
    simp [hexNumber?, hhigh, hlow, hzero, hvalue]
  have hlowHalf : ¬(0xdc00 ≤ c.toNat ∧ c.toNat ≤ 0xdfff) := by omega
  have hhighHalf : ¬(0xd800 ≤ c.toNat ∧ c.toNat ≤ 0xdbff) := by omega
  simp [finishHex, hnumber, hlowHalf, hhighHalf, Char.ofNat_toNat]

/-! ## Strings -/

section Steps

variable {strict : Bool} {state next : StringState} {c : Char} {added : List Char}

/-- A character that does not end the string is taken in one step. -/
theorem readStringFrom_step (hend : state = .plain → c ≠ '"')
    (hstep : stringStep strict state c = .ok (next, added)) (cs : List Char) :
    readStringFrom strict state (c :: cs)
      = (readStringFrom strict next cs).map fun p => (added ++ p.1, p.2) := by
  rw [readStringFrom, hstep]
  · dsimp only
    cases readStringFrom strict next cs <;> rfl
  · intro hplain hquote
    exact hend hplain hquote

/-- A step that adds nothing only changes the state. -/
theorem readStringFrom_silent (hend : state = .plain → c ≠ '"')
    (hstep : stringStep strict state c = .ok (next, [])) (cs : List Char) :
    readStringFrom strict state (c :: cs) = readStringFrom strict next cs := by
  rw [readStringFrom_step hend hstep]
  cases readStringFrom strict next cs <;> rfl

end Steps

theorem readStringFrom_backslash (cs : List Char) :
    readStringFrom true .plain ('\\' :: cs) = readStringFrom true (.escape none) cs :=
  readStringFrom_silent (by simp) (by simp [stringStep]) cs

/-- Digits of one byte are collected as long as there are less than four. -/
theorem readStringFrom_digit {digits : List Char} {c : Char}
    (h : byteCount (digits ++ [c]) < 4) (cs : List Char) :
    readStringFrom true (.hex none digits) (c :: cs)
      = readStringFrom true (.hex none (digits ++ [c])) cs :=
  readStringFrom_silent (by simp) (by simp [stringStep, h]) cs

/-- The text for one character is read as this character. -/
theorem readStringFrom_escapeChar (c : Char) (cs : List Char) :
    readStringFrom true .plain (escapeChar c ++ cs)
      = (readStringFrom true .plain cs).map fun p => (c :: p.1, p.2) := by
  rcases escapeChar_cases c with ⟨hself, hquote, hslash, hcontrol⟩ | ⟨d, hescape, hd, hc⟩ |
    ⟨hcontrol, hescape⟩
  · have hnot : ¬c.toNat < 0x20 := Nat.not_lt.2 hcontrol
    have hstep : stringStep true .plain c = .ok (.plain, [c]) := by
      simp [stringStep, hslash, hnot]
    rw [hself, List.singleton_append, readStringFrom_step (fun _ => hquote) hstep]
    rfl
  · have hstep : stringStep true (.escape none) d = .ok (.plain, [c]) := by
      simp [stringStep, hd, hc]
    rw [hescape, List.cons_append, List.singleton_append, readStringFrom_backslash,
      readStringFrom_step (by simp) hstep]
    rfl
  · -- The digits are collected until there are four of them.
    have hhigh := utf8Size_hexDigit (c.toNat / 16) (by omega)
    have hlow := utf8Size_hexDigit (c.toNat % 16) (by omega)
    have hzero : '0'.utf8Size = 1 := by decide
    have hletter : stringStep true (.escape none) 'u' = .ok (.hex none [], []) := by
      simp [stringStep]
    have hlast : stringStep true (.hex none ['0', '0', hexDigit (c.toNat / 16)])
        (hexDigit (c.toNat % 16)) = .ok (.plain, [c]) := by
      simp [stringStep, byteCount, hhigh, hlow, hzero, finishHex_control hcontrol]
    simp only [hescape, List.cons_append, List.nil_append]
    rw [readStringFrom_backslash, readStringFrom_silent (by simp) hletter,
      readStringFrom_digit (by simp [byteCount, hzero]),
      readStringFrom_digit (by simp [byteCount, hzero]),
      readStringFrom_digit (by simp [byteCount, hzero, hhigh])]
    simp only [List.nil_append, List.cons_append]
    rw [readStringFrom_step (by simp) hlast]
    rfl

/-- A string literal is read back, whatever stands behind it. -/
theorem readStringFrom_quote (text rest : List Char) :
    readStringFrom true .plain (text.flatMap escapeChar ++ '"' :: rest) = .ok (text, rest) := by
  induction text with
  | nil => rfl
  | cons c text ih =>
    rw [List.flatMap_cons, List.append_assoc, readStringFrom_escapeChar, ih]
    rfl

/-! ## Digits -/

namespace JsonValue

theorem isDecimalDigit_of_mem_digits {n : Nat} {c : Char} (h : c ∈ digits n) :
    isDecimalDigit c = true :=
  Nat.isDigit_of_mem_toDigits (by decide) (by decide) h

/-- The digits of a number stand for it. -/
theorem ofDigitChars_digits (n : Nat) : Nat.ofDigitChars 10 (digits n) 0 = n :=
  Nat.ofDigitChars_toDigits (by decide) (by decide)

/-- Digits are split off up to what is no digit. -/
theorem takeDigits_append {ds rest : List Char} (hds : ∀ c ∈ ds, isDecimalDigit c = true)
    (hrest : ∀ c ∈ rest.head?, isDecimalDigit c = false) :
    takeDigits (ds ++ rest) = (ds, rest) := by
  induction ds with
  | nil =>
    cases rest with
    | nil => rfl
    | cons c rest => simp [takeDigits, hrest c (by simp)]
  | cons c ds ih =>
    have hc := hds c (by simp)
    have hmore := ih fun d hd => hds d (by simp [hd])
    simp [takeDigits, hc, hmore]

end JsonValue

end CodeAtlas
