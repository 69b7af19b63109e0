import CodeAtlas.Ignore.Gitignore
import CodeAtlas.Proofs.Utf8

/-!
# Ignore files that can be used

An ignore file can be used if it is a text and each of its lines is understood. It is read line by
line, but a line that is no text is part of a file that is none.

- `Gitignore.IsText`: bytes that are a text.
- `Gitignore.isText_linesOf`: bytes are a text if all of their lines are.
- `Gitignore.Usable`: files that are a text with nothing wrong in any line.
- `Gitignore.exists_ofBytes_iff`: these are the files that have rules.
-/

namespace CodeAtlas

namespace Gitignore

/-! ## Lines of a text -/

def IsText (bytes : Bytes) : Prop := ∃ text, decodeStrict? bytes = some text

theorem isText_nil : IsText [] := ⟨[], rfl⟩

/-- A line end is below 128. -/
theorem isText_append {b : UInt8} (hb : b.toNat < 0x80) (front rest : Bytes) :
    IsText (front ++ b :: rest) ↔ IsText front ∧ IsText rest :=
  exists_decodeStrict?_append hb front rest

def withoutReturn (line : Bytes) : Bytes :=
  if line.getLast? == some 13 then line.dropLast else line

/-- Lines are what stands between line feeds, without the returns at their ends; the last one may
lack a line feed. -/
theorem linesOf_eq_finish (bytes : Bytes) :
    linesOf bytes = linesOf.finish withoutReturn (splitWhere (· == (10 : UInt8)) bytes) := rfl

/-- A carriage return at the end of a line does not matter to whether it is a text. -/
theorem isText_withoutReturn (line : Bytes) : IsText (withoutReturn line) ↔ IsText line := by
  rw [withoutReturn]
  split
  · rename_i hlast
    -- A carriage return is below 128 as well, and nothing is a text.
    obtain ⟨front, rfl⟩ := List.getLast?_eq_some_iff.1 (beq_iff_eq.1 hlast)
    have hreturn := isText_append (b := 13) (by decide) front []
    simpa [isText_nil] using hreturn.symm
  · rfl

theorem isText_finish (parts : List Bytes) :
    (∀ line ∈ linesOf.finish withoutReturn parts, IsText line) ↔ ∀ part ∈ parts, IsText part := by
  fun_induction linesOf.finish withoutReturn parts with
  | case1 => simp
  | case2 last hempty => simp_all [isText_nil]
  | case3 last hfull => simp
  | case4 line rest hrest ih =>
    rw [List.forall_mem_cons, List.forall_mem_cons, ih, isText_withoutReturn]

/-- Some lines are texts iff they are one together, as a line feed is never inside of a character.
-/
theorem isText_joinWith (parts : List Bytes) :
    IsText (joinWith 10 parts) ↔ ∀ part ∈ parts, IsText part := by
  fun_induction joinWith (10 : UInt8) parts with
  | case1 => simp [isText_nil]
  | case2 part => simp
  | case3 part rest hrest ih =>
    rw [isText_append (by decide), ih, List.forall_mem_cons]

/-- Bytes are a text if all of their lines are. -/
theorem isText_linesOf (bytes : Bytes) : (∀ line ∈ linesOf bytes, IsText line) ↔ IsText bytes := by
  have hjoin : joinWith 10 (splitWhere (· == (10 : UInt8)) bytes) = bytes :=
    joinWith_splitWhere (by simp) bytes
  rw [linesOf_eq_finish, isText_finish, ← isText_joinWith, hjoin]

/-! ## Rules -/

/-- What is read of the text of a line with some number: there may be marks in front of the first
line. -/
def lineText (n : Nat) (text : List Char) : List Char :=
  if n = 1 then text.dropWhile (· == byteOrderMark) else text

/-- The text of a line is understood, as a rule or as nothing. -/
def IsRule (n : Nat) (text : List Char) : Prop :=
  ∃ rule, IgnoreRule.read (lineText n text) = .ok rule

/-- An ignore file that is a text with nothing wrong in any line. -/
structure Usable (bytes : Bytes) : Prop where
  isText : IsText bytes
  isRule : ∀ p ∈ (linesOf bytes).zipIdx 1, ∀ text, decodeStrict? p.1 = some text → IsRule p.2 text

/-- There are no faults if each line is a text that is understood. -/
theorem readLines_faults_eq_nil (n : Nat) (lines : List Bytes) :
    (readLines n lines).2 = [] ↔
      ∀ p ∈ lines.zipIdx n, ∃ text, decodeStrict? p.1 = some text ∧ IsRule p.2 text := by
  induction lines generalizing n with
  | nil => simp [readLines]
  | cons line rest ih =>
    rw [List.zipIdx_cons, List.forall_mem_cons, ← ih, readLines]
    cases htext : decodeStrict? line with
    | none => simp
    | some text =>
      simp only [Option.some.injEq, exists_eq_left', IsRule, lineText]
      split <;> simp_all

/-- The files with rules are those that can be used. -/
theorem exists_ofBytes_iff {root : Location} {bytes : Bytes} :
    (∃ g, ofBytes root bytes = .ok g) ↔ Usable bytes := by
  have hrules : (∃ g, ofBytes root bytes = .ok g) ↔ (readLines 1 (linesOf bytes)).2 = [] := by
    rw [ofBytes]
    split <;> simp_all
  rw [hrules, readLines_faults_eq_nil]
  constructor
  · intro h
    refine ⟨(isText_linesOf bytes).1 fun line hline => ?_, fun p hp text htext => ?_⟩
    · rw [← List.zipIdx_map_fst 1 (linesOf bytes)] at hline
      obtain ⟨p, hp, rfl⟩ := List.mem_map.1 hline
      obtain ⟨text, htext, -⟩ := h p hp
      exact ⟨text, htext⟩
    · obtain ⟨text', htext', hrule⟩ := h p hp
      obtain rfl : text' = text := Option.some.inj (htext'.symm.trans htext)
      exact hrule
  · rintro ⟨htext, hrule⟩ p hp
    have hline : p.1 ∈ linesOf bytes := List.fst_mem_of_mem_zipIdx hp
    obtain ⟨text, hdecode⟩ := (isText_linesOf bytes).2 htext p.1 hline
    exact ⟨text, hdecode, hrule p hp text hdecode⟩

end Gitignore

end CodeAtlas
