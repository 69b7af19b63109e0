import CodeAtlas.Proofs.JsonReading
import CodeAtlas.Text.Blank

/-!
# Layout does not matter

The two styles of a text differ only in blanks outside of strings.

- `dropBlanks`: a text without the blanks outside of its strings.
- `dropBlanks_quote`: no string is changed.
- `JsonValue.dropBlanks_render`: without these blanks, either style is the compact one.
-/

namespace CodeAtlas

/-- Where a place of a text is: outside of strings, in a string, or behind a backslash in one. -/
inductive TextPlace where
  | outside
  | inside
  | escaped
  deriving DecidableEq, Repr

namespace TextPlace

def next : TextPlace → Char → TextPlace
  | outside, c => if c = '"' then inside else outside
  | inside, c => if c = '"' then outside else if c = '\\' then escaped else inside
  | escaped, _ => inside

end TextPlace

/-- The rest of a text from a place on, without the blanks outside of strings. -/
def dropBlanksFrom (place : TextPlace) : List Char → List Char
  | [] => []
  | c :: cs =>
    if place = .outside && isBlank c then dropBlanksFrom place cs
    else c :: dropBlanksFrom (place.next c) cs

def dropBlanks (text : List Char) : List Char := dropBlanksFrom .outside text

/-! ## Strings -/

theorem dropBlanksFrom_cons {place : TextPlace} {c : Char}
    (h : place = .outside → isBlank c = false) (cs : List Char) :
    dropBlanksFrom place (c :: cs) = c :: dropBlanksFrom (place.next c) cs := by
  have hkept : (decide (place = .outside) && isBlank c) = false := by
    by_cases hplace : place = .outside
    · simp [h hplace]
    · simp [hplace]
  rw [dropBlanksFrom, hkept]
  rfl

/-- The text for a character of a string stays, and the string goes on. -/
theorem dropBlanksFrom_escapeChar (c : Char) (cs : List Char) :
    dropBlanksFrom .inside (escapeChar c ++ cs) = escapeChar c ++ dropBlanksFrom .inside cs := by
  have hinside : ∀ d text, d ≠ '"' → d ≠ '\\' →
      dropBlanksFrom .inside (d :: text) = d :: dropBlanksFrom .inside text := by
    intro d text hquote hslash
    rw [dropBlanksFrom_cons (by simp)]
    simp [TextPlace.next, hquote, hslash]
  have hbackslash : ∀ d text,
      dropBlanksFrom .inside ('\\' :: d :: text) = '\\' :: d :: dropBlanksFrom .inside text := by
    intro d text
    rw [dropBlanksFrom_cons (by simp)]
    have hescaped : TextPlace.inside.next '\\' = .escaped := by decide
    rw [hescaped, dropBlanksFrom_cons (by simp)]
    rfl
  rcases escapeChar_cases c with ⟨hself, hquote, hslash, -⟩ | ⟨d, hescape, -, -⟩ |
    ⟨hcontrol, hescape⟩
  · rw [hself]
    exact hinside c cs hquote hslash
  · rw [hescape]
    exact hbackslash d cs
  · obtain ⟨hquote, hslash⟩ := hexDigit_ne (c.toNat / 16) (by omega)
    obtain ⟨hquote', hslash'⟩ := hexDigit_ne (c.toNat % 16) (by omega)
    simp only [hescape, List.cons_append, List.nil_append]
    rw [hbackslash, hinside _ _ (by decide) (by decide), hinside _ _ (by decide) (by decide),
      hinside _ _ hquote hslash, hinside _ _ hquote' hslash']

/-- The text of a string between its quotes is kept as it is. -/
theorem dropBlanksFrom_flatMap (text cs : List Char) :
    dropBlanksFrom .inside (text.flatMap escapeChar ++ cs)
      = text.flatMap escapeChar ++ dropBlanksFrom .inside cs := by
  induction text with
  | nil => rfl
  | cons c text ih =>
    rw [List.flatMap_cons, List.append_assoc, dropBlanksFrom_escapeChar, ih, List.append_assoc]

/-- A string stays as it is. -/
theorem dropBlanks_quote (text rest : List Char) :
    dropBlanks (quote text ++ rest) = quote text ++ dropBlanks rest := by
  have hopen : isBlank '"' = false := by decide
  have hinside : TextPlace.outside.next '"' = .inside := by decide
  have hclose : TextPlace.inside.next '"' = .outside := by decide
  rw [quote, dropBlanks, dropBlanks]
  simp only [List.cons_append, List.append_assoc, List.nil_append]
  rw [dropBlanksFrom_cons fun _ => hopen, hinside, dropBlanksFrom_flatMap,
    dropBlanksFrom_cons (by simp), hclose]

/-! ## What stands between strings -/

/-- A character that neither opens a string nor is a blank. -/
def isPlain (c : Char) : Bool := c != '"' && !isBlank c

theorem dropBlanks_cons {c : Char} (h : isPlain c = true) (rest : List Char) :
    dropBlanks (c :: rest) = c :: dropBlanks rest := by
  simp only [isPlain, Bool.and_eq_true, bne_iff_ne, Bool.not_eq_true'] at h
  rw [dropBlanks, dropBlanksFrom_cons fun _ => h.2, TextPlace.next, if_neg h.1, dropBlanks]

/-- Outside of strings characters stay, if they are no blanks. -/
theorem dropBlanks_append {cs : List Char} (h : cs.all isPlain = true) (rest : List Char) :
    dropBlanks (cs ++ rest) = cs ++ dropBlanks rest := by
  induction cs with
  | nil => rfl
  | cons c cs ih =>
    rw [List.all_cons, Bool.and_eq_true] at h
    rw [List.cons_append, dropBlanks_cons h.1, ih h.2, List.cons_append]

/-- Blanks outside of strings go. -/
theorem dropBlanks_blanks {gap : List Char} (h : ∀ c ∈ gap, isBlank c = true) (rest : List Char) :
    dropBlanks (gap ++ rest) = dropBlanks rest := by
  induction gap with
  | nil => rfl
  | cons c gap ih =>
    have hblank := h c (by simp)
    have hrest := ih fun d hd => h d (by simp [hd])
    rw [dropBlanks] at hrest ⊢
    rw [List.cons_append, dropBlanksFrom]
    simpa [hblank] using hrest

theorem lineBreak_compact (depth : Nat) : JsonStyle.compact.lineBreak depth = [] := rfl

theorem colon_compact : JsonStyle.compact.colon = [':'] := rfl

/-- Line breaks and indentations are blanks and nothing else. -/
theorem dropBlanks_lineBreak (style : JsonStyle) (depth : Nat) (rest : List Char) :
    dropBlanks (style.lineBreak depth ++ rest) = dropBlanks rest := by
  refine dropBlanks_blanks ?_ rest
  intro c hc
  cases style with
  | compact => simp [JsonStyle.lineBreak] at hc
  | pretty =>
    rw [JsonStyle.lineBreak, List.mem_cons, List.mem_replicate] at hc
    rcases hc with rfl | ⟨-, rfl⟩ <;> decide

/-- A blank behind a colon is the only difference between the styles. -/
theorem dropBlanks_colon (style : JsonStyle) (rest : List Char) :
    dropBlanks (style.colon ++ rest) = ':' :: dropBlanks rest := by
  have hcolon : isPlain ':' = true := by decide
  cases style with
  | compact => exact dropBlanks_cons hcolon rest
  | pretty =>
    have hspace : ∀ c ∈ [' '], isBlank c = true := by
      intro c hc
      obtain rfl := List.mem_singleton.1 hc
      decide
    have hgap : dropBlanks ([' '] ++ rest) = dropBlanks rest := dropBlanks_blanks hspace rest
    exact (dropBlanks_cons hcolon _).trans (congrArg _ hgap)

theorem isBlank_of_isDecimalDigit {c : Char} (h : isDecimalDigit c = true) : isBlank c = false := by
  have hbounds : 48 ≤ c.toNat ∧ c.toNat ≤ 57 := by
    simpa [isDecimalDigit, Char.le_def, UInt32.le_iff_toNat_le] using h
  simp only [isBlank, blankRanges, List.any_cons, List.any_nil, Bool.or_false, Bool.or_eq_false_iff,
    Bool.and_eq_false_iff, decide_eq_false_iff_not]
  omega

namespace JsonValue

/-- Digits are kept, as none of them is a blank. -/
theorem dropBlanks_digits (n : Nat) (rest : List Char) :
    dropBlanks (digits n ++ rest) = digits n ++ dropBlanks rest := by
  refine dropBlanks_append ?_ rest
  rw [List.all_eq_true]
  intro c hc
  have hdigit := isDecimalDigit_of_mem_digits hc
  have hquote : c ≠ '"' := by
    rintro rfl
    exact absurd hdigit (by decide)
  simp [isPlain, hquote, isBlank_of_isDecimalDigit hdigit]

mutual

/-- Without blanks outside of strings, a value has the text of the compact style. -/
theorem dropBlanks_renderAt (style : JsonStyle) :
    ∀ (v : JsonValue), v.Whole → ∀ (depth depth' : Nat) (rest : List Char),
      dropBlanks (renderAt style depth v ++ rest) = renderAt .compact depth' v ++ dropBlanks rest
  | null, _, _, _, rest => by
    have hword : ['n', 'u', 'l', 'l'].all isPlain = true := by decide
    simpa [renderAt] using dropBlanks_append hword rest
  | bool true, _, _, _, rest => by
    have hword : ['t', 'r', 'u', 'e'].all isPlain = true := by decide
    simpa [renderAt] using dropBlanks_append hword rest
  | bool false, _, _, _, rest => by
    have hword : ['f', 'a', 'l', 's', 'e'].all isPlain = true := by decide
    simpa [renderAt] using dropBlanks_append hword rest
  | natural n, _, _, _, rest => dropBlanks_digits n rest
  | string text, _, _, _, rest => dropBlanks_quote text rest
  | array [], _, _, _, rest => by
    have hbrackets : ['[', ']'].all isPlain = true := by decide
    simpa [renderAt] using dropBlanks_append hbrackets rest
  | array (item :: items), hv, depth, depth', rest => by
    have hv : WholeItems (item :: items) := hv
    have hopen := dropBlanks_cons (c := '[') (by decide)
    have hclose := dropBlanks_cons (c := ']') (by decide)
    have hitem := dropBlanks_renderAt style item hv.1 (depth + 1) (depth' + 1)
    have hitems := dropBlanks_renderItems style items hv.2 (depth + 1) (depth' + 1)
    simp [renderAt, hopen, hclose, hitem, hitems, dropBlanks_lineBreak, lineBreak_compact]
  | object [], _, _, _, rest => by
    have hbraces : ['{', '}'].all isPlain = true := by decide
    simpa [renderAt] using dropBlanks_append hbraces rest
  | object ((key, value) :: members), hv, depth, depth', rest => by
    have hv : WholeMembers ((key, value) :: members) := hv
    have hopen := dropBlanks_cons (c := '{') (by decide)
    have hclose := dropBlanks_cons (c := '}') (by decide)
    have hvalue := dropBlanks_renderAt style value hv.1 (depth + 1) (depth' + 1)
    have hmembers := dropBlanks_renderMembers style members hv.2 (depth + 1) (depth' + 1)
    simp [renderAt, hopen, hclose, hvalue, hmembers, dropBlanks_lineBreak, dropBlanks_colon,
      dropBlanks_quote, lineBreak_compact, colon_compact]

/-- Without blanks the items of an array are those of the compact style. -/
theorem dropBlanks_renderItems (style : JsonStyle) :
    ∀ (items : List JsonValue), WholeItems items → ∀ (depth depth' : Nat) (rest : List Char),
      dropBlanks (renderItems style depth items ++ rest)
        = renderItems .compact depth' items ++ dropBlanks rest
  | [], _, _, _, _ => rfl
  | item :: items, hv, depth, depth', rest => by
    have hcomma := dropBlanks_cons (c := ',') (by decide)
    have hitem := dropBlanks_renderAt style item hv.1 depth depth'
    have hitems := dropBlanks_renderItems style items hv.2 depth depth'
    simp [renderItems, hcomma, hitem, hitems, dropBlanks_lineBreak, lineBreak_compact]

/-- Without blanks the members of an object are those of the compact style. -/
theorem dropBlanks_renderMembers (style : JsonStyle) :
    ∀ (members : List (List Char × JsonValue)), WholeMembers members →
      ∀ (depth depth' : Nat) (rest : List Char),
        dropBlanks (renderMembers style depth members ++ rest)
          = renderMembers .compact depth' members ++ dropBlanks rest
  | [], _, _, _, _ => rfl
  | (key, value) :: members, hv, depth, depth', rest => by
    have hcomma := dropBlanks_cons (c := ',') (by decide)
    have hvalue := dropBlanks_renderAt style value hv.1 depth depth'
    have hmembers := dropBlanks_renderMembers style members hv.2 depth depth'
    simp [renderMembers, hcomma, hvalue, hmembers, dropBlanks_lineBreak, dropBlanks_colon,
      dropBlanks_quote, lineBreak_compact, colon_compact]

end

/-- Without blanks outside of strings, either style is the compact one. -/
theorem dropBlanks_render (style : JsonStyle) {v : JsonValue} (hv : v.Whole) :
    dropBlanks (v.render style) = v.render .compact := by
  have hrender := dropBlanks_renderAt style v hv 0 0 []
  simpa [render, dropBlanks, dropBlanksFrom] using hrender

end JsonValue

end CodeAtlas
