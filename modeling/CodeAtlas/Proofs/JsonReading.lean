import CodeAtlas.Proofs.JsonTokens

/-!
# A value is read back from its text

- `JsonValue.Whole`: values whose numbers are whole and not negative.
- `JsonValue.read`: reads such a value, in any layout.
- `JsonValue.read_render`: what is written of a value, in either style, is read as this value.
-/

namespace CodeAtlas

namespace JsonValue

/-! ## Reading -/

mutual

/-- Reads a value without fractions; `fuel` bounds the number of values in it. -/
def readAny : Nat → JsonReader JsonValue
  | 0, _ => .error .truncated
  | fuel + 1, cs =>
    match skipBlanks cs with
    | [] => .error .truncated
    | c :: rest =>
      if isDecimalDigit c then
        let (ds, rest) := takeDigits (c :: rest)
        .ok (natural (Nat.ofDigitChars 10 ds 0), rest)
      else if c = '"' then
        (readStringFrom true .plain rest).map fun (text, rest) => (string text, rest)
      else if c = 'n' then (passWord "ull".toList rest).map (null, ·)
      else if c = 't' then (passWord "rue".toList rest).map (bool true, ·)
      else if c = 'f' then (passWord "alse".toList rest).map (bool false, ·)
      else if c = '[' then
        match skipBlanks rest with
        | ']' :: rest => .ok (array [], rest)
        | _ => (readItems fuel rest).map fun (items, rest) => (array items, rest)
      else if c = '{' then
        match skipBlanks rest with
        | '}' :: rest => .ok (object [], rest)
        | _ => (readMembers fuel rest).map fun (members, rest) => (object members, rest)
      else .error .malformed

def readItems : Nat → JsonReader (List JsonValue)
  | 0, _ => .error .truncated
  | fuel + 1, cs => do
    let (item, rest) ← readAny fuel cs
    match skipBlanks rest with
    | ',' :: rest => (readItems fuel rest).map fun (items, rest) => (item :: items, rest)
    | ']' :: rest => .ok ([item], rest)
    | _ => .error .malformed

def readMembers : Nat → JsonReader (List (List Char × JsonValue))
  | 0, _ => .error .truncated
  | fuel + 1, cs => do
    let (key, rest) ← readString cs
    let (value, rest) ← readAny fuel (← passColon rest)
    match skipBlanks rest with
    | ',' :: rest =>
      (readMembers fuel rest).map fun (members, rest) => ((key, value) :: members, rest)
    | '}' :: rest => .ok ([(key, value)], rest)
    | _ => .error .malformed

end

def read (text : List Char) : Except JsonFault JsonValue :=
  readWhole (readAny (text.length + 1)) text

/-! ## Sizes -/

mutual

/-- All numbers of a value are whole and not negative. -/
def Whole : JsonValue → Prop
  | null | bool _ | natural _ | string _ => True
  | number _ => False
  | array items => WholeItems items
  | object members => WholeMembers members

def WholeItems : List JsonValue → Prop
  | [] => True
  | item :: rest => Whole item ∧ WholeItems rest

def WholeMembers : List (List Char × JsonValue) → Prop
  | [] => True
  | (_, value) :: rest => Whole value ∧ WholeMembers rest

end

mutual

/-- The fuel that reading a value takes. -/
def weight : JsonValue → Nat
  | null | bool _ | natural _ | number _ | string _ => 1
  | array items => itemsWeight items + 1
  | object members => membersWeight members + 1

def itemsWeight : List JsonValue → Nat
  | [] => 0
  | item :: rest => weight item + itemsWeight rest + 1

def membersWeight : List (List Char × JsonValue) → Nat
  | [] => 0
  | (_, value) :: rest => weight value + membersWeight rest + 1

end

/-! ## Blanks -/

/-- A character that is no blank is not passed over. -/
theorem skipBlanks_cons {c : Char} (hc : isJsonBlank c = false) (cs : List Char) :
    skipBlanks (c :: cs) = c :: cs := by
  simp [skipBlanks, hc]

section Blanks

variable {gap : List Char} (hgap : ∀ c ∈ gap, isJsonBlank c = true)

include hgap

theorem skipBlanks_append (cs : List Char) : skipBlanks (gap ++ cs) = skipBlanks cs :=
  List.dropWhile_append_of_pos hgap

theorem readAny_append (fuel : Nat) (cs : List Char) :
    readAny fuel (gap ++ cs) = readAny fuel cs := by
  cases fuel with
  | zero => simp only [readAny]
  | succ fuel => rw [readAny, readAny, skipBlanks_append hgap]

theorem readString_append (cs : List Char) : readString (gap ++ cs) = readString cs := by
  simp only [readString, readValue, skipBlanks_append hgap]

end Blanks

theorem isJsonBlank_of_mem_lineBreak (style : JsonStyle) (depth : Nat) :
    ∀ c ∈ style.lineBreak depth, isJsonBlank c = true := by
  intro c hc
  cases style with
  | compact => simp [JsonStyle.lineBreak] at hc
  | pretty =>
    rw [JsonStyle.lineBreak, List.mem_cons, List.mem_replicate] at hc
    rcases hc with rfl | ⟨-, rfl⟩ <;> decide

/-- Behind a colon there may be a blank. -/
theorem passColon_colon (style : JsonStyle) (cs : List Char) :
    ∃ gap, passColon (style.colon ++ cs) = .ok (gap ++ cs) ∧ ∀ c ∈ gap, isJsonBlank c = true := by
  cases style with
  | compact => exact ⟨[], rfl, by simp⟩
  | pretty =>
    refine ⟨[' '], rfl, ?_⟩
    intro c hc
    obtain rfl := List.mem_singleton.1 hc
    decide

/-! ## Values -/

/-- A quoted text is read back, and what stands behind it is left. -/
theorem readString_quote (text rest : List Char) :
    readString (quote text ++ rest) = .ok (text, rest) := by
  have hread := readStringFrom_quote text rest
  simpa [readString, readValue, quote, skipBlanks, isJsonBlank] using hread

theorem isJsonBlank_of_isDecimalDigit {c : Char} (h : isDecimalDigit c = true) :
    isJsonBlank c = false := by
  rw [← Bool.not_eq_true]
  intro hblank
  simp only [isJsonBlank, Bool.or_eq_true, beq_iff_eq] at hblank
  rcases hblank with ((rfl | rfl) | rfl) | rfl <;> revert h <;> decide

/-- A number has a digit. -/
theorem digits_cons (n : Nat) : ∃ c cs, digits n = c :: cs ∧ isDecimalDigit c = true := by
  cases hdigits : digits n with
  | nil => exact absurd hdigits Nat.toDigits_ne_nil
  | cons c cs => exact ⟨c, cs, rfl, isDecimalDigit_of_mem_digits (n := n) (by simp [hdigits])⟩

/-- A value begins with a character that is neither a blank nor the end of an array. -/
theorem renderAt_head (style : JsonStyle) (depth : Nat) {v : JsonValue} (hv : v.Whole) :
    ∃ c cs, renderAt style depth v = c :: cs ∧ isJsonBlank c = false ∧ c ≠ ']' := by
  cases v with
  | null => exact ⟨_, _, rfl, by decide, by decide⟩
  | bool b => cases b <;> exact ⟨_, _, rfl, by decide, by decide⟩
  | natural n =>
    obtain ⟨c, cs, hdigits, hc⟩ := digits_cons n
    refine ⟨c, cs, by rw [renderAt, hdigits], isJsonBlank_of_isDecimalDigit hc, ?_⟩
    rintro rfl
    exact absurd hc (by decide)
  | number literal => exact absurd hv (by simp [Whole])
  | string text => exact ⟨_, _, rfl, by decide, by decide⟩
  | array items => cases items <;> exact ⟨_, _, rfl, by decide, by decide⟩
  | object members =>
    cases members with
    | nil => exact ⟨_, _, rfl, by decide, by decide⟩
    | cons member rest => exact ⟨_, _, rfl, by decide, by decide⟩

/-- The text of some items, of which the first one stands without a comma. -/
def itemsText (style : JsonStyle) (depth : Nat) : List JsonValue → List Char
  | [] => []
  | item :: rest => renderAt style depth item ++ renderItems style depth rest

def membersText (style : JsonStyle) (depth : Nat) : List (List Char × JsonValue) → List Char
  | [] => []
  | (key, value) :: rest =>
    quote key ++ style.colon ++ renderAt style depth value ++ renderMembers style depth rest

theorem renderItems_eq (style : JsonStyle) (depth : Nat) {items : List JsonValue}
    (h : items ≠ []) : renderItems style depth items
      = ',' :: (style.lineBreak depth ++ itemsText style depth items) := by
  cases items with
  | nil => exact absurd rfl h
  | cons item rest => simp [renderItems, itemsText]

theorem renderMembers_eq (style : JsonStyle) (depth : Nat)
    {members : List (List Char × JsonValue)} (h : members ≠ []) :
    renderMembers style depth members
      = ',' :: (style.lineBreak depth ++ membersText style depth members) := by
  cases members with
  | nil => exact absurd rfl h
  | cons member rest => simp [renderMembers, membersText]

/-- What stands behind a number does not go on with it. -/
def EndsNumber (rest : List Char) : Prop := ∀ c ∈ rest.head?, isDecimalDigit c = false

theorem endsNumber_comma (rest : List Char) : EndsNumber (',' :: rest) := by
  have hcomma : isDecimalDigit ',' = false := by decide
  simpa [EndsNumber] using hcomma

theorem endsNumber_lineBreak (style : JsonStyle) (depth : Nat) {c : Char}
    (hc : isDecimalDigit c = false) (rest : List Char) :
    EndsNumber (style.lineBreak depth ++ c :: rest) := by
  cases style with
  | compact => simpa [EndsNumber, JsonStyle.lineBreak] using hc
  | pretty =>
    have hbreak : isDecimalDigit '\n' = false := by decide
    simpa [EndsNumber, JsonStyle.lineBreak] using hbreak

/-- The text of an array that is not empty. -/
theorem renderAt_array (style : JsonStyle) (depth : Nat) {items : List JsonValue}
    (h : items ≠ []) : renderAt style depth (array items)
      = '[' :: (style.lineBreak (depth + 1) ++ (itemsText style (depth + 1) items
          ++ (style.lineBreak depth ++ [']']))) := by
  cases items with
  | nil => exact absurd rfl h
  | cons item rest => simp [renderAt, itemsText]

theorem renderAt_object (style : JsonStyle) (depth : Nat)
    {members : List (List Char × JsonValue)} (h : members ≠ []) :
    renderAt style depth (object members)
      = '{' :: (style.lineBreak (depth + 1) ++ (membersText style (depth + 1) members
          ++ (style.lineBreak depth ++ ['}']))) := by
  cases members with
  | nil => exact absurd rfl h
  | cons member rest => simp [renderAt, membersText]

/-- A whole number is read back by its digits. -/
theorem readAny_natural (n fuel : Nat) {rest : List Char} (hrest : EndsNumber rest) :
    readAny (fuel + 1) (digits n ++ rest) = .ok (natural n, rest) := by
  have hall : ∀ c ∈ digits n, isDecimalDigit c = true := fun c hc => isDecimalDigit_of_mem_digits hc
  have htake := takeDigits_append hall hrest
  obtain ⟨c, cs, hdigits, hc⟩ := digits_cons n
  have hskip := skipBlanks_cons (isJsonBlank_of_isDecimalDigit hc) (cs ++ rest)
  rw [hdigits, List.cons_append] at htake
  rw [hdigits, List.cons_append, readAny, hskip]
  simp only [hc, if_true, htake]
  rw [← hdigits, ofDigitChars_digits]

theorem weight_pos (v : JsonValue) : 0 < v.weight := by
  cases v <;> simp [weight]

/-- An array that is not empty is read as its items. -/
theorem readAny_array {fuel : Nat} {cs text rest : List Char} {items : List JsonValue} {c : Char}
    (hskip : skipBlanks cs = c :: text) (hc : c ≠ ']')
    (hitems : readItems fuel cs = .ok (items, rest)) :
    readAny (fuel + 1) ('[' :: cs) = .ok (array items, rest) := by
  have hopen : skipBlanks ('[' :: cs) = '[' :: cs := skipBlanks_cons (by decide) cs
  have hdigit : isDecimalDigit '[' = false := by decide
  rw [readAny, hopen]
  simp [hdigit, hskip, hc, hitems, Except.map]

/-- An object that is not empty is read as its members. -/
theorem readAny_object {fuel : Nat} {cs text rest : List Char}
    {members : List (List Char × JsonValue)} {c : Char}
    (hskip : skipBlanks cs = c :: text) (hc : c ≠ '}')
    (hmembers : readMembers fuel cs = .ok (members, rest)) :
    readAny (fuel + 1) ('{' :: cs) = .ok (object members, rest) := by
  have hopen : skipBlanks ('{' :: cs) = '{' :: cs := skipBlanks_cons (by decide) cs
  have hdigit : isDecimalDigit '{' = false := by decide
  rw [readAny, hopen]
  simp [hdigit, hskip, hc, hmembers, Except.map]

/-- A line break in front of a character is passed over. -/
theorem skipBlanks_lineBreak (style : JsonStyle) (depth : Nat) {c : Char}
    (hc : isJsonBlank c = false) (rest : List Char) :
    skipBlanks (style.lineBreak depth ++ c :: rest) = c :: rest := by
  rw [skipBlanks_append (isJsonBlank_of_mem_lineBreak style depth), skipBlanks_cons hc]

/-- The text of some items does not begin with the end of an array. -/
theorem skipBlanks_itemsText (style : JsonStyle) (depth : Nat) {item : JsonValue}
    (hitem : item.Whole) (items : List JsonValue) (rest : List Char) :
    ∃ c text, skipBlanks (style.lineBreak depth ++ (itemsText style depth (item :: items) ++ rest))
      = c :: text ∧ c ≠ ']' := by
  obtain ⟨c, cs, hhead, hblank, hc⟩ := renderAt_head style depth hitem
  refine ⟨c, cs ++ renderItems style depth items ++ rest, ?_, hc⟩
  rw [itemsText, hhead, List.cons_append, List.cons_append, skipBlanks_lineBreak style depth hblank]

/-- The text of some members begins with a key. -/
theorem skipBlanks_membersText (style : JsonStyle) (depth : Nat) (member : List Char × JsonValue)
    (members : List (List Char × JsonValue)) (rest : List Char) :
    ∃ text, skipBlanks (style.lineBreak depth
      ++ (membersText style depth (member :: members) ++ rest)) = '"' :: text := by
  obtain ⟨key, value⟩ := member
  obtain ⟨text, htext⟩ : ∃ text, membersText style depth ((key, value) :: members) ++ rest
      = '"' :: text := ⟨_, by rw [membersText, quote]; rfl⟩
  rw [htext]
  exact ⟨text, skipBlanks_lineBreak style depth (by decide) text⟩

mutual

/-- What is written of a value is read back. -/
theorem readAny_renderAt (style : JsonStyle) :
    ∀ (v : JsonValue), v.Whole → ∀ (depth fuel : Nat) (rest : List Char), v.weight ≤ fuel →
      EndsNumber rest → readAny fuel (renderAt style depth v ++ rest) = .ok (v, rest)
  | v, _, _, 0, _, hfuel, _ => by
    have hpos := weight_pos v
    omega
  | null, _, _, fuel + 1, rest, _, _ => by
    simp [readAny, renderAt, skipBlanks, isJsonBlank, isDecimalDigit, passWord, Except.map]
  | bool true, _, _, fuel + 1, rest, _, _ => by
    simp [readAny, renderAt, skipBlanks, isJsonBlank, isDecimalDigit, passWord, Except.map]
  | bool false, _, _, fuel + 1, rest, _, _ => by
    simp [readAny, renderAt, skipBlanks, isJsonBlank, isDecimalDigit, passWord, Except.map]
  | natural n, _, _, fuel + 1, rest, _, hrest => readAny_natural n fuel hrest
  | string text, _, _, fuel + 1, rest, _, _ => by
    have hread := readStringFrom_quote text rest
    simp [readAny, renderAt, quote, skipBlanks, isJsonBlank, isDecimalDigit, hread, Except.map]
  | array [], _, _, fuel + 1, rest, _, _ => by
    simp [readAny, renderAt, skipBlanks, isJsonBlank, isDecimalDigit]
  | array (item :: items), hv, depth, fuel + 1, rest, hfuel, _ => by
    have hitems : WholeItems (item :: items) := hv
    have hread := readItems_itemsText style (item :: items) (by simp) hitems (depth + 1) depth fuel
      rest (by simpa [weight] using hfuel)
    obtain ⟨c, text, hskip, hc⟩ := skipBlanks_itemsText style (depth + 1) hitems.1 items
      (style.lineBreak depth ++ ']' :: rest)
    rw [renderAt_array style depth (by simp)]
    simpa using readAny_array hskip hc hread
  | object [], _, _, fuel + 1, rest, _, _ => by
    simp [readAny, renderAt, skipBlanks, isJsonBlank, isDecimalDigit]
  | object (member :: members), hv, depth, fuel + 1, rest, hfuel, _ => by
    have hmembers : WholeMembers (member :: members) := hv
    have hread := readMembers_membersText style (member :: members) (by simp) hmembers (depth + 1)
      depth fuel rest (by simpa [weight] using hfuel)
    obtain ⟨text, hskip⟩ := skipBlanks_membersText style (depth + 1) member members
      (style.lineBreak depth ++ '}' :: rest)
    rw [renderAt_object style depth (by simp)]
    simpa using readAny_object hskip (by decide) hread

/-- Items that were written are read back, in either style, with fuel for their weight. -/
theorem readItems_itemsText (style : JsonStyle) :
    ∀ (items : List JsonValue), items ≠ [] → WholeItems items →
      ∀ (depth outer fuel : Nat) (rest : List Char), itemsWeight items ≤ fuel →
        readItems fuel (style.lineBreak depth ++ (itemsText style depth items
          ++ (style.lineBreak outer ++ ']' :: rest))) = .ok (items, rest)
  | [], hne, _, _, _, _, _, _ => absurd rfl hne
  | item :: items, _, _, _, _, 0, _, hfuel => by simp [itemsWeight] at hfuel
  | item :: items, _, hitems, depth, outer, fuel + 1, rest, hfuel => by
    have hweight : item.weight ≤ fuel ∧ itemsWeight items ≤ fuel := by
      rw [itemsWeight] at hfuel
      omega
    have hblank := isJsonBlank_of_mem_lineBreak style
    have hitem := readAny_renderAt style item hitems.1 depth fuel
    have hmore := readItems_itemsText style items
    rw [readItems, readAny_append (hblank depth), itemsText, List.append_assoc]
    cases items with
    | nil =>
      have hclose := skipBlanks_lineBreak style outer (c := ']') (by decide) rest
      have hend := endsNumber_lineBreak style outer (c := ']') (by decide) rest
      rw [renderItems, List.nil_append, hitem _ hweight.1 hend]
      simp [bind, Except.bind, hclose]
    | cons next more =>
      have hrest := hmore (by simp) hitems.2 depth outer fuel rest hweight.2
      rw [renderItems_eq style depth (by simp), List.cons_append,
        hitem _ hweight.1 (endsNumber_comma _)]
      simp [bind, Except.bind, skipBlanks, isJsonBlank, hrest, Except.map]

/-- Members that were written are read back, in either style, with fuel for their weight. -/
theorem readMembers_membersText (style : JsonStyle) :
    ∀ (members : List (List Char × JsonValue)), members ≠ [] → WholeMembers members →
      ∀ (depth outer fuel : Nat) (rest : List Char), membersWeight members ≤ fuel →
        readMembers fuel (style.lineBreak depth ++ (membersText style depth members
          ++ (style.lineBreak outer ++ '}' :: rest))) = .ok (members, rest)
  | [], hne, _, _, _, _, _, _ => absurd rfl hne
  | (key, value) :: members, _, _, _, _, 0, _, hfuel => by simp [membersWeight] at hfuel
  | (key, value) :: members, _, hmembers, depth, outer, fuel + 1, rest, hfuel => by
    have hweight : value.weight ≤ fuel ∧ membersWeight members ≤ fuel := by
      rw [membersWeight] at hfuel
      omega
    have hblank := isJsonBlank_of_mem_lineBreak style
    have hvalue := readAny_renderAt style value hmembers.1 depth fuel
    have hmore := readMembers_membersText style members
    rw [readMembers, readString_append (hblank depth), membersText]
    simp only [List.append_assoc]
    rw [readString_quote]
    cases members with
    | nil =>
      have hclose := skipBlanks_lineBreak style outer (c := '}') (by decide) rest
      have hend := endsNumber_lineBreak style outer (c := '}') (by decide) rest
      obtain ⟨gap, hcolon, hgap⟩ := passColon_colon style
        (renderAt style depth value ++ (style.lineBreak outer ++ '}' :: rest))
      have hread := hvalue _ hweight.1 hend
      simp [bind, Except.bind, renderMembers, hcolon, readAny_append hgap, hread, hclose]
    | cons next more =>
      have hrest := hmore (by simp) hmembers.2 depth outer fuel rest hweight.2
      rw [renderMembers_eq style depth (by simp), List.cons_append, List.append_assoc]
      -- All that stands behind the comma is read as the further members.
      generalize style.lineBreak depth ++ (membersText style depth (next :: more)
        ++ (style.lineBreak outer ++ '}' :: rest)) = tail at hrest ⊢
      obtain ⟨gap, hcolon, hgap⟩ :=
        passColon_colon style (renderAt style depth value ++ ',' :: tail)
      have hread := hvalue (',' :: tail) hweight.1 (endsNumber_comma tail)
      simp [bind, Except.bind, hcolon, readAny_append hgap, hread, skipBlanks, isJsonBlank, hrest,
        Except.map]

end

/-! ## Whole texts -/

mutual

/-- The text of a value is at least as long as its weight, so its length is fuel enough. -/
theorem weight_le_length (style : JsonStyle) :
    ∀ (v : JsonValue), v.Whole → ∀ depth, v.weight ≤ (renderAt style depth v).length
  | null, _, _ => by simp [weight, renderAt]
  | bool true, _, _ => by simp [weight, renderAt]
  | bool false, _, _ => by simp [weight, renderAt]
  | natural n, _, _ => by
    have hpos : 0 < (digits n).length := Nat.length_toDigits_pos
    exact hpos
  | string text, _, _ => by simp [weight, renderAt, quote]
  | array [], _, _ => by simp [weight, itemsWeight, renderAt]
  | array (item :: items), hv, depth => by
    have hv : WholeItems (item :: items) := hv
    have hitem := weight_le_length style item hv.1 (depth + 1)
    have hitems := itemsWeight_le_length style items hv.2 (depth + 1)
    simp only [weight, itemsWeight, renderAt, List.length_cons, List.length_append]
    omega
  | object [], _, _ => by simp [weight, membersWeight, renderAt]
  | object ((key, value) :: members), hv, depth => by
    have hv : WholeMembers ((key, value) :: members) := hv
    have hvalue := weight_le_length style value hv.1 (depth + 1)
    have hmembers := membersWeight_le_length style members hv.2 (depth + 1)
    simp only [weight, membersWeight, renderAt, List.length_cons, List.length_append]
    omega

theorem itemsWeight_le_length (style : JsonStyle) :
    ∀ (items : List JsonValue), WholeItems items →
      ∀ depth, itemsWeight items ≤ (renderItems style depth items).length
  | [], _, _ => Nat.zero_le _
  | item :: items, hv, depth => by
    have hitem := weight_le_length style item hv.1 depth
    have hitems := itemsWeight_le_length style items hv.2 depth
    simp only [itemsWeight, renderItems, List.length_cons, List.length_append]
    omega

theorem membersWeight_le_length (style : JsonStyle) :
    ∀ (members : List (List Char × JsonValue)), WholeMembers members →
      ∀ depth, membersWeight members ≤ (renderMembers style depth members).length
  | [], _, _ => Nat.zero_le _
  | (_, value) :: members, hv, depth => by
    have hvalue := weight_le_length style value hv.1 depth
    have hmembers := membersWeight_le_length style members hv.2 depth
    simp only [membersWeight, renderMembers, List.length_cons, List.length_append]
    omega

end

/-- The text of a value is one value, namely this one. -/
theorem read_render (style : JsonStyle) {v : JsonValue} (hv : v.Whole) :
    read (v.render style) = .ok v := by
  have hfuel : v.weight ≤ (v.render style).length + 1 :=
    Nat.le_succ_of_le (weight_le_length style v hv 0)
  have hread := readAny_renderAt style v hv 0 _ [] hfuel (by simp [EndsNumber])
  rw [List.append_nil] at hread
  rw [read, readWhole, render] at *
  simp [bind, Except.bind, hread, skipBlanks]

end JsonValue

end CodeAtlas
