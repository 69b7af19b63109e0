import CodeAtlas.Atlas.Reply
import CodeAtlas.Proofs.Document

/-!
# Records are read back

What is written of a symbol, of a list of symbols or of a reply is read as the same value, in either
style and whatever stands behind it.

- `Reads`: a reader takes the text of a value, and nothing behind it.
- `reads_list`, `reads_record`: the readers of lists and records, given those of their parts.
- `Fills`: how the members of an object make up a record.
- `Symbol.reads`, `symbolList_reads`, `OutlineReply.reads`: the records that are exchanged.
-/

namespace CodeAtlas

open JsonValue

/-! ## Readers -/

/-- What stands behind a value does not go on with it, also if it is a number. -/
def EndsValue (rest : List Char) : Prop :=
  ∀ c ∈ rest.head?, isDecimalDigit c = false ∧ c ≠ '.' ∧ c ≠ 'e' ∧ c ≠ 'E'

/-- A reader takes the text of a value for `x`, behind any blanks, and leaves what stands behind
it. -/
def Reads {α : Type} (read : JsonReader α) (v : JsonValue) (x : α) : Prop :=
  ∀ (style : JsonStyle) (depth : Nat) (gap rest : List Char),
    (∀ c ∈ gap, isJsonBlank c = true) → EndsValue rest →
      read (gap ++ (renderAt style depth v ++ rest)) = .ok (x, rest)

theorem endsValue_nil : EndsValue [] := by simp [EndsValue]

theorem endsValue_cons {c : Char} (hdigit : isDecimalDigit c = false) (hpoint : c ≠ '.')
    (hlower : c ≠ 'e') (hupper : c ≠ 'E') (rest : List Char) : EndsValue (c :: rest) := by
  simp [EndsValue, hdigit, hpoint, hlower, hupper]

theorem endsValue_lineBreak {c : Char} {rest : List Char} (h : EndsValue (c :: rest))
    (style : JsonStyle) (depth : Nat) : EndsValue (style.lineBreak depth ++ c :: rest) := by
  cases style with
  | compact => exact h
  | pretty => exact endsValue_cons (by decide) (by decide) (by decide) (by decide) _

theorem endsValue_comma (rest : List Char) : EndsValue (',' :: rest) :=
  endsValue_cons (by decide) (by decide) (by decide) (by decide) rest

section Values

variable {α β : Type} {read : JsonReader α} {v : JsonValue} {x : α}

/-- A whole text is read. -/
theorem Reads.readWhole (h : Reads read v x) (style : JsonStyle) :
    readWhole read (v.render style) = .ok x := by
  have hread := h style 0 [] [] (by simp) endsValue_nil
  rw [List.nil_append, List.append_nil] at hread
  simp [CodeAtlas.readWhole, render, hread, bind, Except.bind, skipBlanks]

/-- A reader that looks at the first character behind the blanks. -/
theorem readValue_append {pick : Char → List Char → Option (Except JsonFault (α × List Char))}
    {gap : List Char} (hgap : ∀ c ∈ gap, isJsonBlank c = true) (cs : List Char) :
    readValue pick (gap ++ cs) = readValue pick cs := by
  simp only [readValue, skipBlanks_append hgap]

/-- A string is taken for its text. -/
theorem reads_string (text : List Char) : Reads readString (.string text) text := by
  intro style depth gap rest hgap _
  rw [readString_append hgap, renderAt, readString_quote]

theorem reads_text (s : String) : Reads readText (.ofString s) s := by
  intro style depth gap rest hgap hrest
  rw [readText, JsonValue.ofString, reads_string s.toList style depth gap rest hgap hrest]
  simp [Except.map]

theorem reads_bool (b : Bool) : Reads readBool (.bool b) b := by
  intro style depth gap rest hgap _
  rw [readBool, readValue_append hgap]
  cases b <;> simp [renderAt, readValue, skipBlanks, isJsonBlank, passWord, Except.map]

/-- A value that does not begin like null is read as a value that is there. -/
theorem reads_option_some (h : Reads read v x)
    (hhead : ∀ style depth, ∃ c cs, renderAt style depth v = c :: cs ∧ isJsonBlank c = false ∧
      c ≠ 'n') : Reads (readOption read) v (some x) := by
  intro style depth gap rest hgap hrest
  obtain ⟨c, cs, hhead, hblank, hc⟩ := hhead style depth
  have hread := h style depth [] rest (by simp) hrest
  rw [hhead, List.nil_append, List.cons_append] at hread
  have hskip := skipBlanks_cons hblank (cs ++ rest)
  simp [readOption, skipBlanks_append hgap, hhead, hskip, hc, hread, Except.map]

theorem reads_option_none : Reads (readOption read) .null none := by
  intro style depth gap rest hgap _
  have hskip := skipBlanks_cons (c := 'n') (by decide)
  simp [readOption, skipBlanks_append hgap, renderAt, hskip, passWord, Except.map]

/-- A text that may be missing is taken for what it is, or for nothing. -/
theorem reads_option_text (s : Option String) :
    Reads (readOption readText) (.ofOption .ofString s) s := by
  cases s with
  | none => exact reads_option_none
  | some s =>
    exact reads_option_some (reads_text s) fun _ _ => ⟨'"', _, rfl, by decide, by decide⟩

/-- One of the names of a type. -/
theorem reads_named {ofName? : String → Option α} {name : String} (h : ofName? name = some x) :
    Reads (readNamed ofName?) (.ofString name) x := by
  intro style depth gap rest hgap hrest
  obtain ⟨text, htext⟩ : ∃ text, quote name.toList ++ rest = '"' :: text := ⟨_, rfl⟩
  have hread : readString ('"' :: text) = .ok (name.toList, rest) := by
    rw [← htext, readString_quote]
  have hskip := skipBlanks_cons (c := '"') (by decide) text
  simp [readNamed, readEnum, JsonValue.ofString, renderAt, skipBlanks_append hgap, htext, hskip,
    hread, h, bind, Except.bind]

end Values

/-! ## Numbers -/

/-- Digits may be appended one after the other, as long as the number does not become too large. -/
theorem appendDigits_append {n m : Nat} {ds : List Char} (h : appendDigits n ds = (m, 0))
    (ds' : List Char) : appendDigits n (ds ++ ds') = appendDigits m ds' := by
  induction ds generalizing n with
  | nil =>
    obtain rfl : n = m := (Prod.mk.inj h).1
    rfl
  | cons d ds ih =>
    rw [appendDigits] at h
    rw [List.cons_append, appendDigits]
    split at h
    · exact absurd (Prod.mk.inj h).2 (by simp)
    · rename_i hsmall
      rw [if_neg hsmall, ih h]

theorem digits_of_lt {n : Nat} (h : n < 10) : digits n = [Nat.digitChar n] :=
  Nat.toDigits_of_lt_base h

theorem digits_of_le {n : Nat} (h : 10 ≤ n) :
    digits n = digits (n / 10) ++ [Nat.digitChar (n % 10)] :=
  Nat.toDigits_of_base_le (by decide) h

theorem toNat_digitChar : ∀ d < 10, (Nat.digitChar d).toNat - '0'.toNat = d := by decide

/-- The digits of a number that is not too large are all taken. -/
theorem appendDigits_digits {n : Nat} (h : n ≤ maxWord) : appendDigits 0 (digits n) = (n, 0) := by
  induction n using Nat.strongRecOn with
  | ind n ih =>
    by_cases hn : n < 10
    · have hsmall : ¬maxWord < n := by omega
      rw [digits_of_lt hn, appendDigits, toNat_digitChar n hn]
      simp [hsmall, appendDigits]
    · have hlast := toNat_digitChar (n % 10) (by omega)
      have hvalue : 10 * (n / 10) + n % 10 = n := by omega
      have hsmall : ¬maxWord < n := by omega
      rw [digits_of_le (by omega), appendDigits_append (ih (n / 10) (by omega) (by omega)),
        appendDigits, hlast, hvalue]
      simp [hsmall, appendDigits]

/-- Only the number zero begins with a zero. -/
theorem digits_head_ne_zero {n : Nat} (h : 0 < n) : ∃ d ds, digits n = d :: ds ∧ d ≠ '0' := by
  induction n using Nat.strongRecOn with
  | ind n ih =>
    by_cases hn : n < 10
    · have hne : ∀ d < 10, 0 < d → Nat.digitChar d ≠ '0' := by decide
      exact ⟨_, [], digits_of_lt hn, hne n hn h⟩
    · obtain ⟨d, ds, hds, hd⟩ := ih (n / 10) (by omega) (by omega)
      exact ⟨d, ds ++ [Nat.digitChar (n % 10)], by rw [digits_of_le (by omega), hds]; rfl, hd⟩

/-- The digits of a number are read as this number. -/
theorem readNumber_digits {n : Nat} (h : n ≤ maxWord) {rest : List Char} (hrest : EndsValue rest) :
    readNumber (digits n ++ rest) = .ok (.natural n, rest) := by
  have hall : ∀ c ∈ digits n, isDecimalDigit c = true := fun c hc => isDecimalDigit_of_mem_digits hc
  have htake := takeDigits_append hall fun c hc => (hrest c hc).1
  obtain ⟨c, cs, hdigits, hc⟩ := digits_cons n
  have hsign : c ≠ '-' := by
    rintro rfl
    exact absurd hc (by decide)
  have hfinish : finishNumber false (c :: cs) rest = .ok (.natural n, rest) := by
    rw [← hdigits, finishNumber, appendDigits_digits h]
    cases rest with
    | nil => rfl
    | cons d rest =>
      obtain ⟨-, hpoint, hlower, hupper⟩ := hrest d rfl
      simp [hpoint, hlower, hupper]
  -- A zero is not followed by further digits.
  have hzero : c = '0' → cs = [] := by
    rintro rfl
    rcases Nat.eq_zero_or_pos n with rfl | hn
    · exact (List.cons.inj (hdigits.symm.trans (digits_of_lt (by decide)))).2
    · obtain ⟨d, ds, hds, hd⟩ := digits_head_ne_zero hn
      exact absurd (List.cons.inj (hdigits.symm.trans hds)).1.symm hd
  rw [hdigits] at htake ⊢
  cases cs with
  | nil =>
    rw [List.cons_append, List.nil_append] at htake ⊢
    simp [readNumber, hsign, htake, hfinish]
  | cons d ds =>
    have hhead : c ≠ '0' := fun hc => List.cons_ne_nil d ds (hzero hc)
    rw [List.cons_append, List.cons_append] at htake ⊢
    simp [readNumber, hsign, htake, hfinish, hhead]

/-- A whole number is taken for itself, if it is a word. -/
theorem reads_natural {n : Nat} (h : n ≤ maxWord) : Reads readNatural (.natural n) n := by
  intro style depth gap rest hgap hrest
  obtain ⟨c, cs, hdigits, hc⟩ := digits_cons n
  have hread := readNumber_digits h hrest
  have hskip := skipBlanks_cons (isJsonBlank_of_isDecimalDigit hc) (cs ++ rest)
  rw [hdigits, List.cons_append] at hread
  have hskipped : ∀ cs, readNatural (gap ++ cs) = readNatural cs := readValue_append hgap
  rw [hskipped, renderAt, hdigits, List.cons_append]
  simp [readNatural, readNumberAs, readValue, hskip, hc, hread, bind, Except.bind]

theorem reads_option_natural {n : Nat} (h : n ≤ maxWord) :
    Reads (readOption readNatural) (.natural n) (some n) := by
  refine reads_option_some (reads_natural h) fun style depth => ?_
  obtain ⟨c, cs, hdigits, hc⟩ := digits_cons n
  refine ⟨c, cs, by rw [renderAt, hdigits], isJsonBlank_of_isDecimalDigit hc, ?_⟩
  rintro rfl
  exact absurd hc (by decide)

/-! ## Lists -/

section Lists

variable {α : Type} {read : JsonReader α} {v : JsonValue} {x : α} {fuel : Nat}

/-- An item is read, and then the further ones. -/
theorem readItems_step (h : Reads read v x) {style : JsonStyle} {depth : Nat} {first : Bool}
    {cs tail : List Char} (hnext : nextItem? first cs = .ok (some (renderAt style depth v ++ tail)))
    (htail : EndsValue tail) : CodeAtlas.readItems read (fuel + 1) first cs
      = (CodeAtlas.readItems read fuel false tail).map fun p => (x :: p.1, p.2) := by
  have hread := h style depth [] tail (by simp) htail
  rw [List.nil_append] at hread
  rw [CodeAtlas.readItems, hnext]
  simp only [bind, Except.bind, hread]
  cases CodeAtlas.readItems read fuel false tail <;> rfl

/-- The text of an item does not begin with a blank or with the end of an array. -/
theorem nextItem?_first (style : JsonStyle) (depth : Nat) (hv : v.Whole) (tail : List Char) :
    nextItem? true (style.lineBreak depth ++ (renderAt style depth v ++ tail))
      = .ok (some (renderAt style depth v ++ tail)) := by
  obtain ⟨c, cs, hhead, hblank, hc⟩ := renderAt_head style depth hv
  rw [hhead, List.cons_append, nextItem?, skipBlanks_lineBreak style depth hblank]
  simp

theorem nextItem?_further (style : JsonStyle) (depth : Nat) (hv : v.Whole) (tail : List Char) :
    nextItem? false (',' :: (style.lineBreak depth ++ (renderAt style depth v ++ tail)))
      = .ok (some (renderAt style depth v ++ tail)) := by
  obtain ⟨c, cs, hhead, hblank, hc⟩ := renderAt_head style depth hv
  have hskip := skipBlanks_lineBreak style depth hblank (cs ++ tail)
  have hcomma := skipBlanks_cons (c := ',') (by decide)
  rw [hhead, List.cons_append, nextItem?, hcomma]
  simp [hskip, hc]

theorem nextItem?_none (style : JsonStyle) (outer : Nat) (first : Bool) (rest : List Char) :
    nextItem? first (style.lineBreak outer ++ ']' :: rest) = .ok none := by
  rw [nextItem?, skipBlanks_lineBreak style outer (by decide)]
  rfl

/-- Behind an item there stands a comma or the end of the array. -/
theorem endsValue_renderItems (style : JsonStyle) (depth outer : Nat) (items : List JsonValue)
    (rest : List Char) :
    EndsValue (renderItems style depth items ++ (style.lineBreak outer ++ ']' :: rest)) := by
  cases items with
  | nil =>
    refine endsValue_lineBreak ?_ style outer
    exact endsValue_cons (by decide) (by decide) (by decide) (by decide) rest
  | cons item items => exact endsValue_comma _

section Items

variable {toJson : α → JsonValue} {xs : List α}

/-- The further items of an array are read up to its end. -/
theorem readItems_renderItems (h : ∀ x ∈ xs, Reads read (toJson x) x ∧ (toJson x).Whole)
    (style : JsonStyle) (depth outer : Nat) (rest : List Char) (hfuel : xs.length < fuel) :
    CodeAtlas.readItems read fuel false
        (renderItems style depth (xs.map toJson) ++ (style.lineBreak outer ++ ']' :: rest))
      = .ok (xs, style.lineBreak outer ++ ']' :: rest) := by
  induction xs generalizing fuel with
  | nil =>
    obtain ⟨fuel, rfl⟩ : ∃ n, fuel = n + 1 := ⟨fuel - 1, by simp at hfuel; omega⟩
    rw [List.map_nil, renderItems, List.nil_append, CodeAtlas.readItems, nextItem?_none]
    rfl
  | cons x xs ih =>
    obtain ⟨fuel, rfl⟩ : ∃ n, fuel = n + 1 := ⟨fuel - 1, by simp at hfuel; omega⟩
    obtain ⟨hread, hwhole⟩ := h x (by simp)
    have hmore := ih (fun y hy => h y (by simp [hy])) (by simpa using hfuel)
    have hend := endsValue_renderItems style depth outer (xs.map toJson) rest
    have hnext := nextItem?_further style depth hwhole
      (renderItems style depth (xs.map toJson) ++ (style.lineBreak outer ++ ']' :: rest))
    rw [List.map_cons, renderItems]
    simp only [List.append_assoc, List.cons_append]
    rw [readItems_step hread hnext hend, hmore]
    rfl

theorem length_le_length_renderItems (style : JsonStyle) (depth : Nat) (items : List JsonValue) :
    items.length ≤ (renderItems style depth items).length := by
  induction items with
  | nil => simp
  | cons item items ih =>
    simp only [renderItems, List.cons_append, List.length_cons, List.length_append]
    omega

/-- An array is read if its items are. -/
theorem reads_list (h : ∀ x ∈ xs, Reads read (toJson x) x ∧ (toJson x).Whole) :
    Reads (readList read) (.array (xs.map toJson)) xs := by
  intro style depth gap rest hgap _
  have hopen := skipBlanks_cons (c := '[') (by decide)
  have hclose : ∀ style : JsonStyle,
      endArray (style.lineBreak depth ++ ']' :: rest) = .ok rest := by
    intro style
    rw [endArray, skipBlanks_lineBreak style depth (by decide)]
    rfl
  -- The items up to the end of the array, and the array around them.
  have harray : ∀ {text tail : List Char},
      CodeAtlas.readItems read (text.length + 1) true text = .ok (xs, tail) →
        endArray tail = .ok rest → readList read ('[' :: text) = .ok (xs, rest) := by
    intro text tail hitems hend
    simp [readList, readValue, hopen, hitems, hend, bind, Except.bind]
  have hskip : ∀ cs, readList read (gap ++ cs) = readList read cs := readValue_append hgap
  rw [hskip]
  cases xs with
  | nil =>
    rw [List.map_nil, renderAt, List.cons_append, List.cons_append, List.nil_append]
    refine harray ?_ (hclose .compact)
    have hnone : nextItem? true (']' :: rest) = .ok none := nextItem?_none .compact depth true rest
    rw [CodeAtlas.readItems, hnone]
    rfl
  | cons x xs =>
    obtain ⟨hread, hwhole⟩ := h x (by simp)
    have hend := endsValue_renderItems style (depth + 1) depth (xs.map toJson) rest
    have hnext := nextItem?_first style (depth + 1) hwhole
      (renderItems style (depth + 1) (xs.map toJson) ++ (style.lineBreak depth ++ ']' :: rest))
    have hlength := length_le_length_renderItems style (depth + 1) (xs.map toJson)
    rw [List.map_cons, renderAt_array style depth (by simp), itemsText]
    simp only [List.append_assoc, List.cons_append, List.nil_append]
    refine harray ?_ (hclose style)
    rw [readItems_step hread hnext hend, readItems_renderItems fun y hy => h y (by simp [hy])]
    · rfl
    · simp only [List.length_append, List.length_map, List.length_cons] at hlength ⊢
      omega

end Items

end Lists

/-! ## Records -/

/-- The members of an object, one after the other, turn a record into another one: each is told by
its key, no key comes twice, and no field is missing that must be there. -/
inductive Fills {α : Type} (fields : List (JsonField α)) :
    List (List Char) → α → List (List Char × JsonValue) → α → Prop where
  | done {seen : List (List Char)} {record : α}
      (hall : ∀ f ∈ fields, f.optional = false → f.name ∈ seen) : Fills fields seen record [] record
  | member {seen : List (List Char)} {record result : α} {key : List Char} {value : JsonValue}
      {members : List (List Char × JsonValue)} {field : JsonField α} {change : α → α}
      (hfield : fields.find? (·.name == key) = some field) (hnew : key ∉ seen)
      (hread : Reads field.read value change)
      (hrest : Fills fields (key :: seen) (change record) members result) :
      Fills fields seen record ((key, value) :: members) result

section Records

variable {α β : Type} {fields : List (JsonField α)} {field : JsonField α} {seen : List (List Char)}
  {record result : α} {change : α → α} {key : List Char} {value : JsonValue}
  {members : List (List Char × JsonValue)} {fuel : Nat}

/-- A member is read, and then the further ones. -/
theorem readMembers_step (hfield : fields.find? (·.name == key) = some field) (hnew : key ∉ seen)
    (hread : Reads field.read value change) {style : JsonStyle} {depth : Nat} {first : Bool}
    {cs tail : List Char}
    (hnext : nextKey? first cs = .ok (some (key.flatMap escapeChar ++ '"' ::
      (style.colon ++ (renderAt style depth value ++ tail)))))
    (htail : EndsValue tail) : CodeAtlas.readMembers fields (fuel + 1) first seen record cs
      = CodeAtlas.readMembers fields fuel false (key :: seen) (change record) tail := by
  obtain ⟨gap, hcolon, hgap⟩ := passColon_colon style (renderAt style depth value ++ tail)
  have hvalue := hread style depth gap tail hgap htail
  have hnot : seen.contains key = false := by simpa using hnew
  rw [CodeAtlas.readMembers, hnext]
  simp only [bind, Except.bind, readStringFrom_quote, hfield, hnot, hcolon, hvalue]
  simp

theorem nextKey?_first (style : JsonStyle) (depth : Nat) (key tail : List Char) :
    nextKey? true (style.lineBreak depth ++ (quote key ++ tail))
      = .ok (some (key.flatMap escapeChar ++ '"' :: tail)) := by
  rw [quote]
  simp only [List.cons_append, List.append_assoc, List.nil_append]
  rw [nextKey?, skipBlanks_lineBreak style depth (by decide)]
  rfl

theorem nextKey?_further (style : JsonStyle) (depth : Nat) (key tail : List Char) :
    nextKey? false (',' :: (style.lineBreak depth ++ (quote key ++ tail)))
      = .ok (some (key.flatMap escapeChar ++ '"' :: tail)) := by
  have hcomma := skipBlanks_cons (c := ',') (by decide)
  rw [quote]
  simp only [List.cons_append, List.append_assoc, List.nil_append]
  rw [nextKey?, hcomma]
  simp only [skipBlanks_lineBreak style depth (by decide : isJsonBlank '"' = false)]
  rfl

theorem nextKey?_none (style : JsonStyle) (outer : Nat) (first : Bool) (rest : List Char) :
    nextKey? first (style.lineBreak outer ++ '}' :: rest) = .ok none := by
  rw [nextKey?, skipBlanks_lineBreak style outer (by decide)]
  rfl

/-- Behind a member there stands a comma or the end of the object. -/
theorem endsValue_renderMembers (style : JsonStyle) (depth outer : Nat)
    (members : List (List Char × JsonValue)) (rest : List Char) :
    EndsValue (renderMembers style depth members ++ (style.lineBreak outer ++ '}' :: rest)) := by
  cases members with
  | nil =>
    refine endsValue_lineBreak ?_ style outer
    exact endsValue_cons (by decide) (by decide) (by decide) (by decide) rest
  | cons member members => exact endsValue_comma _

/-- The further members of an object are read up to its end. -/
theorem Fills.readMembers (h : Fills fields seen record members result) (style : JsonStyle)
    (depth outer : Nat) (rest : List Char) (hfuel : members.length < fuel) :
    CodeAtlas.readMembers fields fuel false seen record
        (renderMembers style depth members ++ (style.lineBreak outer ++ '\x7d' :: rest))
      = .ok (result, style.lineBreak outer ++ '\x7d' :: rest) := by
  induction h generalizing fuel with
  | done hall =>
    obtain ⟨fuel, rfl⟩ : ∃ n, fuel = n + 1 := ⟨fuel - 1, by simp at hfuel; omega⟩
    rw [renderMembers, List.nil_append, CodeAtlas.readMembers, nextKey?_none]
    simpa [bind, Except.bind] using hall
  | @member seen record result key value members field change hfield hnew hread _ ih =>
    obtain ⟨fuel, rfl⟩ : ∃ n, fuel = n + 1 := ⟨fuel - 1, by simp at hfuel; omega⟩
    have hend := endsValue_renderMembers style depth outer members rest
    have hnext := nextKey?_further style depth key
      (style.colon ++ (renderAt style depth value ++ (renderMembers style depth members
        ++ (style.lineBreak outer ++ '\x7d' :: rest))))
    rw [renderMembers]
    simp only [List.append_assoc, List.cons_append]
    rw [readMembers_step hfield hnew hread hnext hend, ih (by simpa using hfuel)]

theorem length_le_length_renderMembers (style : JsonStyle) (depth : Nat)
    (members : List (List Char × JsonValue)) :
    members.length ≤ (renderMembers style depth members).length := by
  induction members with
  | nil => simp
  | cons member members ih =>
    simp only [renderMembers, List.cons_append, List.length_cons, List.length_append]
    omega

/-- An object is read as the record that its members make up. -/
theorem Fills.reads {blank : α} (h : Fills fields [] blank members result) :
    Reads (readRecord fields blank) (.object members) result := by
  intro style depth gap rest hgap _
  have hopen := skipBlanks_cons (c := '\x7b') (by decide)
  -- The members up to the end of the object, and the object around them.
  have hobject : ∀ {text : List Char} (style : JsonStyle),
      CodeAtlas.readMembers fields (text.length + 1) true [] blank text
          = .ok (result, style.lineBreak depth ++ '\x7d' :: rest) →
        readRecord fields blank ('\x7b' :: text) = .ok (result, rest) := by
    intro text style hmembers
    have hclose := skipBlanks_lineBreak style depth (c := '\x7d') (by decide) rest
    simp [readRecord, readValue, hopen, hmembers, hclose, bind, Except.bind]
  have hskip : ∀ cs, readRecord fields blank (gap ++ cs) = readRecord fields blank cs :=
    readValue_append hgap
  rw [hskip]
  cases h with
  | done hall =>
    rw [renderAt, List.cons_append, List.cons_append, List.nil_append]
    refine hobject .compact ?_
    have hnone : nextKey? true ('\x7d' :: rest) = .ok none := nextKey?_none .compact depth true rest
    rw [CodeAtlas.readMembers, hnone]
    simpa [bind, Except.bind, JsonStyle.lineBreak] using hall
  | @member _ _ _ key value members field change hfield hnew hread hrest =>
    have hend := endsValue_renderMembers style (depth + 1) depth members rest
    have hnext := nextKey?_first style (depth + 1) key
      (style.colon ++ (renderAt style (depth + 1) value ++ (renderMembers style (depth + 1) members
        ++ (style.lineBreak depth ++ '\x7d' :: rest))))
    have hlength := length_le_length_renderMembers style (depth + 1) members
    rw [renderAt_object style depth (by simp), membersText]
    simp only [List.append_assoc, List.cons_append, List.nil_append]
    refine hobject style ?_
    rw [readMembers_step hfield hnew hread hnext hend, hrest.readMembers]
    simp only [List.length_append, List.length_cons] at hlength ⊢
    omega

/-- A field that sets a part of a record. -/
theorem reads_fieldOf {read : JsonReader β} {x : β} (h : Reads read value x) (name : String)
    (set : β → α → α) : Reads (fieldOf name read set).read value (set x) := by
  intro style depth gap rest hgap hrest
  simp [fieldOf, h style depth gap rest hgap hrest, Except.map]

end Records

/-! ## Records that are exchanged -/

theorem SymbolKind.reads (k : SymbolKind) : Reads SymbolKind.read k.toJson k :=
  reads_named k.ofName?_name

/-- A symbol is read back, with or without a line. -/
theorem Symbol.reads {s : Symbol} (h : ∀ n ∈ s.line, n ≤ maxWord) :
    Reads Symbol.read s.toJson s := by
  obtain ⟨kind, name, line⟩ := s
  refine Fills.reads (.member rfl (by simp) (reads_fieldOf kind.reads _ _) ?_)
  refine .member rfl (by decide) (reads_fieldOf (reads_text name) _ _) ?_
  cases line with
  | none => exact .done (by decide)
  | some n =>
    have hline := reads_option_natural (h n rfl)
    refine .member rfl (by decide) (reads_fieldOf hline "line"
      fun n (s : Symbol) => { s with line := n }) ?_
    exact .done (by decide)

/-- A list of symbols is read back from its document, with and without lines. -/
theorem symbolList_reads {symbols : List Symbol} (h : ∀ s ∈ symbols, ∀ n ∈ s.line, n ≤ maxWord) :
    Reads (readList Symbol.read) (symbolListJson symbols) symbols :=
  reads_list fun s hs => ⟨Symbol.reads (h s hs), s.whole_toJson⟩

/-- A reply is read back, whatever it holds. -/
theorem OutlineReply.reads (r : OutlineReply) : Reads OutlineReply.read r.toJson r := by
  obtain ⟨success, data, error⟩ := r
  refine Fills.reads (.member rfl (by simp) (reads_fieldOf (reads_bool success) _ _) ?_)
  refine .member rfl (by decide) (reads_fieldOf (reads_option_text data) "data"
    fun t (r : OutlineReply) => { r with data := t }) ?_
  refine .member rfl (by decide) (reads_fieldOf (reads_option_text error) "error"
    fun t (r : OutlineReply) => { r with error := t }) ?_
  exact .done (by decide)

end CodeAtlas
