import Mathlib.Data.Char
import Mathlib.Tactic.SplitIfs
import CodeAtlas.Text.Utf8

/-!
# Texts and their bytes

A text is read back from its bytes, and bytes around a line end are a text if both parts are.

- `utf8Lead_of_two`, `utf8Lead_of_three`, `utf8Lead_of_four`: the first bytes of longer characters.
- `utf8UnitsFrom_encodeChar`: the bytes of a character are read as this character.
- `decodeLossy_encodeUtf8`, `decodeSource_encodeUtf8`: so is a text, but for a byte order mark.
- `exists_decodeStrict?_append`: a byte below 128 parts what is well formed.
-/

namespace CodeAtlas

/-! ## First bytes -/

theorem utf8Lead_of_two {b : Nat} (hleast : 0xc2 ≤ b) (hmost : b < 0xe0) :
    utf8Lead b = .start ⟨b - 0xc0, 1, 0x80, 0xbf⟩ := by
  unfold utf8Lead
  split_ifs <;> first | rfl | omega

/-- Bounds on the second byte leave out what would fit into two bytes, and halves of pairs. -/
theorem utf8Lead_of_three {b : Nat} (hleast : 0xe0 ≤ b) (hmost : b < 0xf0) :
    utf8Lead b = .start ⟨b - 0xe0, 2, if b = 0xe0 then 0xa0 else 0x80,
      if b = 0xed then 0x9f else 0xbf⟩ := by
  unfold utf8Lead
  split_ifs <;> first | omega | simp_all

/-- Bounds on the second byte leave out what would fit into three bytes, and what is too large. -/
theorem utf8Lead_of_four {b : Nat} (hleast : 0xf0 ≤ b) (hmost : b ≤ 0xf4) :
    utf8Lead b = .start ⟨b - 0xf0, 3, if b = 0xf0 then 0x90 else 0x80,
      if b = 0xf4 then 0x8f else 0xbf⟩ := by
  unfold utf8Lead
  split_ifs <;> first | omega | simp_all

/-! ## Characters -/

section Steps

variable {done : List (Option Char)} {s : Utf8Partial} {b : UInt8}

theorem utf8UnitsFrom_cons (done : List (Option Char)) (state : Option Utf8Partial) (b : UInt8)
    (rest : Bytes) : utf8UnitsFrom done state (b :: rest)
      = utf8UnitsFrom ((utf8Step state b.toNat).2 ++ done) (utf8Step state b.toNat).1 rest := by
  cases state <;> rfl

theorem utf8UnitsFrom_whole {c : Char} (h : utf8Lead b.toNat = .whole c) (rest : Bytes) :
    utf8UnitsFrom done none (b :: rest) = utf8UnitsFrom (some c :: done) none rest := by
  simp [utf8UnitsFrom_cons, utf8Step, utf8Begin, h]

theorem utf8UnitsFrom_start (h : utf8Lead b.toNat = .start s) (rest : Bytes) :
    utf8UnitsFrom done none (b :: rest) = utf8UnitsFrom done (some s) rest := by
  simp [utf8UnitsFrom_cons, utf8Step, utf8Begin, h]

/-- A byte within the bounds goes on with a character. -/
theorem utf8UnitsFrom_more (hleast : s.least ≤ b.toNat) (hgreatest : b.toNat ≤ s.greatest)
    (hlacks : 1 < s.lacks) (rest : Bytes) :
    utf8UnitsFrom done (some s) (b :: rest) = utf8UnitsFrom done
      (some ⟨64 * s.value + (b.toNat - 0x80), s.lacks - 1, 0x80, 0xbf⟩) rest := by
  have hnot : ¬s.lacks ≤ 1 := Nat.not_le.2 hlacks
  simp [utf8UnitsFrom_cons, utf8Step, hleast, hgreatest, hnot]

/-- The last byte of a character completes it. -/
theorem utf8UnitsFrom_last {c : Char} (hleast : s.least ≤ b.toNat)
    (hgreatest : b.toNat ≤ s.greatest) (hlacks : s.lacks ≤ 1)
    (hvalue : 64 * s.value + (b.toNat - 0x80) = c.toNat) (rest : Bytes) :
    utf8UnitsFrom done (some s) (b :: rest) = utf8UnitsFrom (some c :: done) none rest := by
  simp [utf8UnitsFrom_cons, utf8Step, hleast, hgreatest, hlacks, hvalue]

end Steps

/-- A character is neither half of a pair nor too large. -/
theorem charCode_bounds (c : Char) :
    c.toNat < 0xd800 ∨ 0xdfff < c.toNat ∧ c.toNat < 0x110000 := by
  have hvalid := c.valid
  simp only [UInt32.isValidChar, Nat.isValidChar] at hvalid
  exact hvalid

/-- The bytes of a character are read as this character. -/
theorem utf8UnitsFrom_encodeChar (c : Char) (done : List (Option Char)) (rest : Bytes) :
    utf8UnitsFrom done none (String.utf8EncodeChar c ++ rest)
      = utf8UnitsFrom (some c :: done) none rest := by
  have hbounds := charCode_bounds c
  -- Divisions by 64 instead of by its powers, so that `omega` sees the digits.
  have hsecond : ∀ v : Nat, v / 4096 = v / 64 / 64 := by omega
  have hthird : ∀ v : Nat, v / 262144 = v / 64 / 64 / 64 := by omega
  have hvalue : c.val.toNat = c.toNat := rfl
  rw [String.utf8EncodeChar]
  simp only [hsecond, hthird, hvalue]
  split_ifs with hone htwo hthree <;> simp only [List.cons_append, List.nil_append]
  · refine utf8UnitsFrom_whole ?_ rest
    have hbyte : (UInt8.ofNat c.toNat).toNat = c.toNat := by
      rw [UInt8.toNat_ofNat']
      omega
    have hlead : c.toNat < 0x80 := by omega
    rw [hbyte, utf8Lead, if_pos hlead, Char.ofNat_toNat]
  · rw [utf8UnitsFrom_start (utf8Lead_of_two ?_ ?_), utf8UnitsFrom_last] <;>
      simp only [UInt8.toNat_ofNat'] <;> omega
  -- The bounds on a second byte depend on the first one.
  · rw [utf8UnitsFrom_start (utf8Lead_of_three ?_ ?_), utf8UnitsFrom_more, utf8UnitsFrom_last] <;>
      simp only [UInt8.toNat_ofNat'] <;> first | omega | (split_ifs <;> omega)
  · rw [utf8UnitsFrom_start (utf8Lead_of_four ?_ ?_), utf8UnitsFrom_more, utf8UnitsFrom_more,
      utf8UnitsFrom_last] <;>
      simp only [UInt8.toNat_ofNat'] <;> first | omega | (split_ifs <;> omega)

/-! ## Texts -/

theorem utf8UnitsFrom_encodeUtf8 (text : List Char) (done : List (Option Char)) :
    utf8UnitsFrom done none (encodeUtf8 text) = done.reverse ++ text.map some := by
  induction text generalizing done with
  | nil => simp [encodeUtf8, utf8UnitsFrom]
  | cons c text ih =>
    rw [encodeUtf8, List.flatMap_cons, utf8UnitsFrom_encodeChar, ← encodeUtf8, ih]
    simp

/-- Reading undoes writing, character by character. -/
theorem utf8Units_encodeUtf8 (text : List Char) : utf8Units (encodeUtf8 text) = text.map some :=
  utf8UnitsFrom_encodeUtf8 text []

/-- A text is read back from its bytes. -/
theorem decodeLossy_encodeUtf8 (text : List Char) : decodeLossy (encodeUtf8 text) = text := by
  simp [decodeLossy, utf8Units_encodeUtf8, Function.comp_def]

/-- The text of a source file is read back, if no mark stands in front of it. -/
theorem decodeSource_encodeUtf8 {text : List Char} (h : text.head? ≠ some byteOrderMark) :
    decodeSource (encodeUtf8 text) = text := by
  rw [decodeSource, decodeLossy_encodeUtf8]
  cases text with
  | nil => rfl
  | cons c rest =>
    have hc : c ≠ byteOrderMark := fun hc => h (by rw [List.head?_cons, hc])
    rw [dropMark, if_neg hc]

/-! ## Bytes that stand for themselves -/

/-- What is complete already does not matter to what follows. -/
theorem utf8UnitsFrom_eq_append (done : List (Option Char)) (state : Option Utf8Partial)
    (bytes : Bytes) :
    utf8UnitsFrom done state bytes = done.reverse ++ utf8UnitsFrom [] state bytes := by
  induction bytes generalizing done state with
  | nil => cases state <;> simp [utf8UnitsFrom]
  | cons b rest ih =>
    rw [utf8UnitsFrom_cons, utf8UnitsFrom_cons, ih, ih (_ ++ [])]
    simp

theorem utf8Begin_least (b : Nat) : ∀ s ∈ (utf8Begin b).1, 0x80 ≤ s.least := by
  have hlead : ∀ s, utf8Lead b = .start s → 0x80 ≤ s.least := by
    intro s
    unfold utf8Lead
    split_ifs <;> simp only [Utf8Lead.start.injEq, false_implies] <;> rintro rfl <;> simp
  unfold utf8Begin
  split <;> simp_all

/-- The bytes in the middle of a character are not below 128. -/
theorem utf8Step_least (state : Option Utf8Partial) (b : Nat) :
    ∀ s ∈ (utf8Step state b).1, 0x80 ≤ s.least := by
  unfold utf8Step
  split
  · exact utf8Begin_least b
  · split
    · dsimp only
      split <;> simp
    · exact utf8Begin_least b

/-- A byte below 128 stands for itself, and what is in front of it has no part in what is behind. -/
theorem utf8UnitsFrom_append_ascii {state : Option Utf8Partial}
    (hstate : ∀ s ∈ state, 0x80 ≤ s.least) {b : UInt8} (hb : b.toNat < 0x80) (front rest : Bytes) :
    utf8UnitsFrom [] state (front ++ b :: rest) = utf8UnitsFrom [] state front
      ++ some (Char.ofNat b.toNat) :: utf8UnitsFrom [] none rest := by
  have hlead : utf8Lead b.toNat = .whole (Char.ofNat b.toNat) := by rw [utf8Lead, if_pos hb]
  induction front generalizing state with
  | nil =>
    -- A character that has begun cannot go on with this byte: it is ill formed, and ends here.
    rw [List.nil_append, utf8UnitsFrom_cons, utf8UnitsFrom_eq_append]
    cases state with
    | none => simp [utf8Step, utf8Begin, hlead, utf8UnitsFrom]
    | some s =>
      have hleast : ¬s.least ≤ b.toNat := by
        have := hstate s rfl
        omega
      simp [utf8Step, utf8Begin, hlead, hleast, utf8UnitsFrom]
  | cons c front ih =>
    rw [List.cons_append, utf8UnitsFrom_cons, utf8UnitsFrom_cons, utf8UnitsFrom_eq_append,
      utf8UnitsFrom_eq_append (_ ++ []) _ front, ih (utf8Step_least state c.toNat),
      List.append_assoc]

/-- Bytes are a text if no stretch of them is ill formed. -/
theorem exists_decodeStrict?_iff {bytes : Bytes} :
    (∃ text, decodeStrict? bytes = some text) ↔ none ∉ utf8Units bytes := by
  rw [decodeStrict?]
  induction utf8Units bytes with
  | nil => simp
  | cons u units ih =>
    rw [List.mapM_cons]
    cases u with
    | none => simp
    | some c =>
      have hmem : none ∈ some c :: units ↔ none ∈ units := by simp
      rw [hmem, ← ih]
      cases List.mapM id units <;> simp

/-- Bytes around one that is below 128 are a text if both parts are. -/
theorem exists_decodeStrict?_append {b : UInt8} (hb : b.toNat < 0x80) (front rest : Bytes) :
    (∃ text, decodeStrict? (front ++ b :: rest) = some text) ↔
      (∃ text, decodeStrict? front = some text) ∧ ∃ text, decodeStrict? rest = some text := by
  simp only [exists_decodeStrict?_iff, utf8Units]
  rw [utf8UnitsFrom_append_ascii (by simp) hb]
  simp

end CodeAtlas
