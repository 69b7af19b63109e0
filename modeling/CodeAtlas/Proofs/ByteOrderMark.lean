import Mathlib.Data.List.Basic
import CodeAtlas.Proofs.IgnoreLines

/-!
# Bytes with a byte order mark in front

A mark in front of some bytes is one character in front of their text, and nothing else than its
bytes stands for it. So the mark of a source file is taken away whatever bytes follow, and nothing
else is.

- `markBytes`: the bytes of the mark.
- `decodeLossy_markBytes`: their text begins with the mark.
- `markBytes_prefix_of_head?`: no other bytes have such a text.
- `decodeSource_markBytes`: the text of a source file behind a mark.
- `Gitignore.ofBytes_markBytes`: an ignore file with a mark says the same.
-/

namespace CodeAtlas

def markBytes : Bytes := [0xef, 0xbb, 0xbf]

theorem encodeUtf8_byteOrderMark (text : List Char) :
    encodeUtf8 (byteOrderMark :: text) = markBytes ++ encodeUtf8 text := rfl

/-- A mark in front of some bytes is read as one character and changes nothing behind it. -/
theorem utf8Units_markBytes (bytes : Bytes) :
    utf8Units (markBytes ++ bytes) = some byteOrderMark :: utf8Units bytes := by
  have hmark := utf8UnitsFrom_encodeChar byteOrderMark [] bytes
  rw [utf8UnitsFrom_eq_append [some byteOrderMark]] at hmark
  exact hmark

/-- What follows the mark is read as if the mark were not there. -/
theorem decodeLossy_markBytes (bytes : Bytes) :
    decodeLossy (markBytes ++ bytes) = byteOrderMark :: decodeLossy bytes := by
  rw [decodeLossy, utf8Units_markBytes, List.map_cons, decodeLossy, Option.getD_some]

/-! ## What a mark is read from -/

theorem eq_of_ofNat_eq_mark {n : Nat} (h : Char.ofNat n = byteOrderMark) : n = 0xfeff := by
  by_cases hvalid : n.isValidChar
  · have hcode : (Char.ofNat n).toNat = n := by
      rw [Char.ofNat, dif_pos hvalid]
      rfl
    rw [h] at hcode
    exact hcode.symm
  · have hzero : Char.ofNat n = Char.ofNat 0 := by
      rw [Char.ofNat, dif_neg hvalid]
      rfl
    exact absurd (hzero.symm.trans h) (by decide)

/-- Only bytes below 128 are characters on their own. -/
theorem utf8Lead_eq_whole {b : Nat} {c : Char} (h : utf8Lead b = .whole c) :
    b < 0x80 ∧ Char.ofNat b = c := by
  unfold utf8Lead at h
  split_ifs at h with hone
  exact ⟨hone, Utf8Lead.whole.inj h⟩

/-- What the first byte of a longer character leaves open. -/
theorem utf8Lead_eq_start {b : Nat} {s : Utf8Partial} (h : utf8Lead b = .start s) :
    0x80 ≤ s.least ∧ s.greatest ≤ 0xbf ∧
      ((s.lacks = 1 ∧ s.value < 0x20) ∨
        (s.lacks = 2 ∧ 0xe0 ≤ b ∧ b < 0xf0 ∧ s.value = b - 0xe0) ∨
        (s.lacks = 3 ∧ (0 < s.value ∨ 0x90 ≤ s.least))) := by
  unfold utf8Lead at h
  split_ifs at h <;> obtain rfl := Utf8Lead.start.inj h <;> simp only [true_and, and_true] <;> omega

section Started

variable {s : Utf8Partial} {bytes : Bytes} {c : Char}

/-- If a character that has begun is completed, the next byte goes on with it. -/
theorem exists_of_head?_utf8UnitsFrom (h : (utf8UnitsFrom [] (some s) bytes).head? = some (some c)) :
    ∃ b rest, bytes = b :: rest ∧ s.least ≤ b.toNat ∧ b.toNat ≤ s.greatest := by
  cases bytes with
  | nil => simp [utf8UnitsFrom] at h
  | cons b rest =>
    refine ⟨b, rest, rfl, ?_⟩
    by_contra hbounds
    -- What has begun is ill formed, and no character comes first.
    rw [utf8UnitsFrom_cons, utf8UnitsFrom_eq_append] at h
    simp [utf8Step, hbounds] at h

/-- If more bytes are lacking, those behind complete the character. -/
theorem exists_more_of_head?_utf8UnitsFrom (hlacks : 1 < s.lacks)
    (h : (utf8UnitsFrom [] (some s) bytes).head? = some (some c)) :
    ∃ b rest, bytes = b :: rest ∧ s.least ≤ b.toNat ∧ b.toNat ≤ s.greatest ∧
      (utf8UnitsFrom [] (some ⟨64 * s.value + (b.toNat - 0x80), s.lacks - 1, 0x80, 0xbf⟩)
        rest).head? = some (some c) := by
  obtain ⟨b, rest, rfl, hleast, hgreatest⟩ := exists_of_head?_utf8UnitsFrom h
  rw [utf8UnitsFrom_more hleast hgreatest hlacks] at h
  exact ⟨b, rest, rfl, hleast, hgreatest, h⟩

/-- If only one byte is lacking, it gives the code of the mark. -/
theorem exists_last_of_head?_utf8UnitsFrom (hlacks : s.lacks ≤ 1)
    (h : (utf8UnitsFrom [] (some s) bytes).head? = some (some byteOrderMark)) :
    ∃ b rest, bytes = b :: rest ∧ s.least ≤ b.toNat ∧ b.toNat ≤ s.greatest ∧
      64 * s.value + (b.toNat - 0x80) = 0xfeff := by
  obtain ⟨b, rest, rfl, hleast, hgreatest⟩ := exists_of_head?_utf8UnitsFrom h
  refine ⟨b, rest, rfl, hleast, hgreatest, eq_of_ofNat_eq_mark ?_⟩
  rw [utf8UnitsFrom_cons, utf8UnitsFrom_eq_append] at h
  simpa [utf8Step, hleast, hgreatest, hlacks] using h

/-- Of all characters of several bytes only the mark itself is read as the mark. -/
theorem markBytes_prefix_of_start {b : UInt8} (hlead : utf8Lead b.toNat = .start s)
    (h : (utf8UnitsFrom [] (some s) bytes).head? = some (some byteOrderMark)) :
    markBytes <+: b :: bytes := by
  obtain ⟨hleast, hgreatest, ⟨hone, hvalue⟩ | ⟨htwo, hfirst, hlast, hvalue⟩ | ⟨hthree, hvalue⟩⟩ :=
    utf8Lead_eq_start hlead
  -- Two bytes are too few for its code.
  · obtain ⟨b₁, rest, rfl, hleast₁, hgreatest₁, hcode⟩ :=
      exists_last_of_head?_utf8UnitsFrom (by omega) h
    omega
  -- Three bytes are told by its code.
  · obtain ⟨b₁, rest₁, rfl, hleast₁, hgreatest₁, hmore⟩ :=
      exists_more_of_head?_utf8UnitsFrom (by omega) h
    obtain ⟨b₂, rest₂, rfl, hleast₂, hgreatest₂, hcode⟩ :=
      exists_last_of_head?_utf8UnitsFrom (by simp only; omega) hmore
    simp only at hleast₂ hgreatest₂ hcode
    have hb : b = 0xef := UInt8.toNat_inj.1 (by simp; omega)
    have hb₁ : b₁ = 0xbb := UInt8.toNat_inj.1 (by simp; omega)
    have hb₂ : b₂ = 0xbf := UInt8.toNat_inj.1 (by simp; omega)
    rw [hb, hb₁, hb₂]
    exact ⟨rest₂, rfl⟩
  -- Four bytes stand for larger codes.
  · obtain ⟨b₁, rest₁, rfl, hleast₁, hgreatest₁, hmore₁⟩ :=
      exists_more_of_head?_utf8UnitsFrom (by omega) h
    obtain ⟨b₂, rest₂, rfl, hleast₂, hgreatest₂, hmore₂⟩ :=
      exists_more_of_head?_utf8UnitsFrom (by simp only; omega) hmore₁
    obtain ⟨b₃, rest₃, rfl, hleast₃, hgreatest₃, hcode⟩ :=
      exists_last_of_head?_utf8UnitsFrom (by simp only; omega) hmore₂
    simp only at hleast₂ hgreatest₂ hleast₃ hgreatest₃ hcode
    omega

end Started

/-- Nothing is read as the mark but its bytes. -/
theorem markBytes_prefix_of_head? {bytes : Bytes}
    (h : (utf8Units bytes).head? = some (some byteOrderMark)) : markBytes <+: bytes := by
  cases bytes with
  | nil => simp [utf8Units, utf8UnitsFrom] at h
  | cons b rest =>
    rw [utf8Units, utf8UnitsFrom_cons, utf8UnitsFrom_eq_append] at h
    cases hlead : utf8Lead b.toNat with
    | whole c =>
      obtain ⟨hsmall, hc⟩ := utf8Lead_eq_whole hlead
      have hmark : c = byteOrderMark := by simpa [utf8Step, utf8Begin, hlead] using h
      have hcode := eq_of_ofNat_eq_mark (hc.trans hmark)
      omega
    | start s =>
      refine markBytes_prefix_of_start hlead ?_
      simpa [utf8Step, utf8Begin, hlead] using h
    | invalid => simp [utf8Step, utf8Begin, hlead] at h

/-- A text that begins with a mark is that of bytes that begin with one. -/
theorem head?_decodeLossy_eq_mark_iff {bytes : Bytes} :
    (decodeLossy bytes).head? = some byteOrderMark ↔ markBytes <+: bytes := by
  constructor
  · intro h
    rw [decodeLossy, List.head?_map, Option.map_eq_some_iff] at h
    obtain ⟨unit, hunit, hmark⟩ := h
    refine markBytes_prefix_of_head? ?_
    cases unit with
    -- The replacement character is another one.
    | none => exact absurd hmark (by decide)
    | some c => rw [hunit, ← hmark, Option.getD_some]
  · rintro ⟨rest, rfl⟩
    rw [decodeLossy_markBytes, List.head?_cons]

/-! ## Source files -/

theorem dropMark_of_head?_ne {text : List Char} (h : text.head? ≠ some byteOrderMark) :
    dropMark text = text := by
  cases text with
  | nil => rfl
  | cons c rest =>
    have hc : c ≠ byteOrderMark := fun hc => h (by rw [List.head?_cons, hc])
    rw [dropMark, if_neg hc]

/-- One mark is taken away, and what follows it is kept, even if it is a mark. -/
theorem decodeSource_markBytes (bytes : Bytes) :
    decodeSource (markBytes ++ bytes) = decodeLossy bytes := by
  rw [decodeSource, decodeLossy_markBytes, dropMark, if_pos rfl]

/-- Bytes that do not start with those of a mark are a source text as they are. -/
theorem decodeSource_of_unmarked {bytes : Bytes} (h : ¬markBytes <+: bytes) :
    decodeSource bytes = decodeLossy bytes := by
  rw [decodeSource, dropMark_of_head?_ne (fun hmark => h (head?_decodeLossy_eq_mark_iff.1 hmark))]

/-- A mark in front of a source file without one does not change its text. -/
theorem decodeSource_markBytes_of_unmarked {bytes : Bytes} (h : ¬markBytes <+: bytes) :
    decodeSource (markBytes ++ bytes) = decodeSource bytes := by
  rw [decodeSource_markBytes, decodeSource_of_unmarked h]

/-! ## Ignore files -/

namespace Gitignore

theorem decodeStrict?_markBytes (line : Bytes) :
    decodeStrict? (markBytes ++ line) = (decodeStrict? line).map (byteOrderMark :: ·) := by
  rw [decodeStrict?, utf8Units_markBytes, List.mapM_cons, decodeStrict?]
  cases (utf8Units line).mapM id <;> rfl

/-- All marks in front of the first line are passed over. -/
theorem readLines_markBytes (line : Bytes) (rest : List Bytes) :
    readLines 1 ((markBytes ++ line) :: rest) = readLines 1 (line :: rest) := by
  rw [readLines, readLines, decodeStrict?_markBytes]
  cases decodeStrict? line with
  | none => rfl
  | some text =>
    have hdrop : (byteOrderMark :: text).dropWhile (· == byteOrderMark)
        = text.dropWhile (· == byteOrderMark) := List.dropWhile_cons_of_pos (by simp)
    simp only [Option.map_some, if_pos, hdrop]

theorem withoutReturn_markBytes (line : Bytes) :
    withoutReturn (markBytes ++ line) = markBytes ++ withoutReturn line := by
  cases line with
  | nil => rfl
  | cons b rest =>
    have hlast : (markBytes ++ b :: rest).getLast? = (b :: rest).getLast? :=
      List.getLast?_append_of_ne_nil _ (List.cons_ne_nil b rest)
    rw [withoutReturn, hlast, withoutReturn]
    split
    · rw [List.dropLast_append_of_ne_nil (List.cons_ne_nil b rest)]
    · rfl

/-- The mark is part of the first line; if there is none, it is a line of its own. -/
theorem linesOf_markBytes (bytes : Bytes) :
    (linesOf bytes = [] ∧ linesOf (markBytes ++ bytes) = [markBytes]) ∨
      ∃ line rest, linesOf bytes = line :: rest ∧
        linesOf (markBytes ++ bytes) = (markBytes ++ line) :: rest := by
  rw [linesOf_eq_finish, linesOf_eq_finish]
  have hsplit : ∀ part parts, splitWhere (· == (10 : UInt8)) bytes = part :: parts →
      splitWhere (· == (10 : UInt8)) (markBytes ++ bytes) = (markBytes ++ part) :: parts := by
    intro part parts hparts
    simp [markBytes, splitWhere, hparts]
  cases hparts : splitWhere (· == (10 : UInt8)) bytes with
  | nil => exact absurd hparts (splitWhere_ne_nil _ _)
  | cons part parts =>
    rw [hsplit part parts hparts]
    cases parts with
    | nil =>
      cases part with
      | nil => exact .inl ⟨rfl, rfl⟩
      | cons b rest => exact .inr ⟨b :: rest, [], rfl, rfl⟩
    | cons next parts =>
      refine .inr ⟨withoutReturn part, linesOf.finish withoutReturn (next :: parts), rfl, ?_⟩
      rw [← withoutReturn_markBytes]
      rfl

/-- An ignore file with a mark in front says the same, and the same is wrong with it. -/
theorem ofBytes_markBytes (root : Location) (bytes : Bytes) :
    ofBytes root (markBytes ++ bytes) = ofBytes root bytes := by
  have hread : readLines 1 (linesOf (markBytes ++ bytes)) = readLines 1 (linesOf bytes) := by
    rcases linesOf_markBytes bytes with ⟨hnone, hmark⟩ | ⟨line, rest, hlines, hmark⟩
    · rw [hnone, hmark]
      rfl
    · rw [hlines, hmark, readLines_markBytes]
  rw [ofBytes, ofBytes, hread]

end Gitignore

end CodeAtlas
