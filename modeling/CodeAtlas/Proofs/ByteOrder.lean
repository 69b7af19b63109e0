import Mathlib.Data.Char
import Mathlib.Data.List.Lex
import CodeAtlas.Text.Utf8

/-!
# The order of texts and of their bytes

Texts are compared character by character. Comparing their bytes gives the same answer, so an order
by name is an order by bytes.

- `utf8EncodeChar_append_lt`: of two characters the smaller one has the smaller bytes, whatever
  follows.
- `encodeUtf8_lt_iff`: two texts compare as their bytes do.
-/

namespace CodeAtlas

/-- The bytes of two characters differ before either of them ends. -/
theorem utf8EncodeChar_append_lt {c d : Char} (h : c < d) (s t : Bytes) :
    String.utf8EncodeChar c ++ s < String.utf8EncodeChar d ++ t := by
  have hlt : c.val.toNat < d.val.toNat := h
  have hd : d.val.toNat < 1114112 := by
    have hvalid := d.valid
    simp only [UInt32.isValidChar, Nat.isValidChar] at hvalid
    omega
  -- Three divisions by 64 instead of one by a power, so that `omega` sees the digits.
  have hsecond : ∀ v : Nat, v / 4096 = v / 64 / 64 := by omega
  have hthird : ∀ v : Nat, v / 262144 = v / 64 / 64 / 64 := by omega
  simp only [String.utf8EncodeChar, hsecond, hthird]
  split_ifs <;>
    simp only [List.cons_append, List.nil_append, List.cons_lt_cons_iff, UInt8.lt_iff_toNat_lt,
      ← UInt8.toNat_inj, UInt8.toNat_ofNat'] <;>
    omega

/-- The bytes of a smaller text are smaller. -/
theorem encodeUtf8_lt_of_lt {a b : List Char} (h : a < b) : encodeUtf8 a < encodeUtf8 b := by
  induction h with
  | nil =>
    -- Every character has a byte, so that a text that goes on has more bytes.
    rename_i d b
    have hne : String.utf8EncodeChar d ≠ [] := String.utf8EncodeChar_ne_nil
    cases hd : String.utf8EncodeChar d with
    | nil => exact absurd hd hne
    | cons x xs => simp [encodeUtf8, hd]
  | cons _ ih =>
    simp only [encodeUtf8, List.flatMap_cons]
    exact List.append_left_lt ih
  -- The first characters that differ decide, whatever bytes follow.
  | rel hcd => exact utf8EncodeChar_append_lt hcd _ _

/-- Two texts compare as their bytes do. -/
theorem encodeUtf8_lt_iff (a b : List Char) : encodeUtf8 a < encodeUtf8 b ↔ a < b := by
  constructor
  · intro h
    rcases lt_trichotomy a b with hab | rfl | hba
    · exact hab
    · exact absurd h (List.lt_irrefl _)
    · exact absurd h (List.lt_asymm (encodeUtf8_lt_of_lt hba))
  · exact encodeUtf8_lt_of_lt

end CodeAtlas
