import CodeAtlas.Proofs.Filters
import CodeAtlas.Proofs.RecordReading

/-!
# Records are the same after writing and reading

A record that is exchanged has many texts: its keys may come in any order, a text may be escaped in
several ways, an object may be an array. Reading a text and writing what was read gives one of them,
which stands for the same record and is not changed by doing so again.

- `Yields`: what a reader guarantees about what it reads, whatever the text.
- `yields_record`: a record has a property that every field keeps.
- `ScanStats.reads`: counts are read back.
- `RoundTrips`: writing undoes reading, and reading undoes writing.
- `records_roundTrip`: this holds of symbols, of lists of symbols, of counts and of replies.
-/

namespace CodeAtlas

open JsonValue

/-! ## What readers guarantee -/

/-- What a reader takes from a text has some property. -/
def Yields {α : Type} (read : JsonReader α) (holds : α → Prop) : Prop :=
  ∀ cs x rest, read cs = .ok (x, rest) → holds x

section Readers

variable {α β : Type} {read : JsonReader α} {holds : α → Prop}

/-- A reader by the first character yields what it picks for each character. -/
theorem yields_value {pick : Char → List Char → Option (Except JsonFault (α × List Char))}
    (h : ∀ c, ∀ cs x rest, pick c cs = some (.ok (x, rest)) → holds x) :
    Yields (readValue pick) holds := by
  intro cs x rest hread
  rw [readValue] at hread
  split at hread
  · exact absurd hread (by simp)
  · rename_i c cs _
    split at hread
    · rename_i hpick
      exact h c cs x rest (by rw [hpick, hread])
    · exact absurd hread (by simp)

theorem yields_option (h : Yields read holds) :
    Yields (readOption read) fun x => ∀ y ∈ x, holds y := by
  intro cs x rest hread
  rw [readOption] at hread
  split at hread
  · obtain ⟨_, -, hnone⟩ := map_eq_ok.1 hread
    obtain rfl : none = x := (Prod.mk.inj hnone).1
    simp
  · obtain ⟨⟨y, _⟩, hvalue, hsome⟩ := map_eq_ok.1 hread
    obtain rfl : some y = x := (Prod.mk.inj hsome).1
    simpa using h _ y _ hvalue

/-- The items of an array have the property that the reader of an item yields. -/
theorem yields_items (h : Yields read holds) (fuel : Nat) (first : Bool) :
    Yields (CodeAtlas.readItems read fuel first) fun xs => ∀ x ∈ xs, holds x := by
  induction fuel generalizing first with
  | zero => exact fun cs xs rest hread => absurd hread (by simp [CodeAtlas.readItems])
  | succ fuel ih =>
    intro cs xs rest hread
    rw [CodeAtlas.readItems] at hread
    obtain ⟨next, -, hread⟩ := bind_eq_ok.1 hread
    cases next with
    | none =>
      obtain rfl : [] = xs := (Prod.mk.inj (Except.ok.inj hread)).1
      simp
    | some cs =>
      obtain ⟨⟨y, _⟩, hitem, hread⟩ := bind_eq_ok.1 hread
      obtain ⟨⟨ys, _⟩, hitems, hread⟩ := bind_eq_ok.1 hread
      obtain rfl : y :: ys = xs := (Prod.mk.inj (Except.ok.inj hread)).1
      exact List.forall_mem_cons.2 ⟨h _ y _ hitem, ih false _ ys _ hitems⟩

theorem yields_list (h : Yields read holds) :
    Yields (readList read) fun xs => ∀ x ∈ xs, holds x := by
  refine yields_value fun c cs xs rest hread => ?_
  split at hread
  · obtain ⟨⟨ys, _⟩, hitems, hread⟩ := bind_eq_ok.1 (Option.some.inj hread)
    obtain ⟨_, -, hread⟩ := bind_eq_ok.1 hread
    obtain rfl : ys = xs := (Prod.mk.inj (Except.ok.inj hread)).1
    exact yields_items h _ true _ ys _ hitems
  · exact absurd hread (by simp)

end Readers

/-! ## Numbers are not too large -/

/-- Digits are taken only as long as the number is a word. -/
theorem appendDigits_le {n : Nat} (h : n ≤ maxWord) (digits : List Char) :
    (appendDigits n digits).1 ≤ maxWord := by
  induction digits generalizing n with
  | nil => exact h
  | cons c rest ih =>
    rw [appendDigits]
    split
    · exact h
    · rename_i hsmall
      exact ih (Nat.not_lt.1 hsmall)

/-- A number with a fraction or an exponent is not read as a whole number. -/
theorem finishDecimal_ne_natural {negative : Bool} {n k : Nat} {e : Int} {cs rest : List Char} :
    finishDecimal negative n e cs ≠ .ok (.natural k, rest) := by
  intro hread
  unfold finishDecimal at hread
  simp only at hread
  -- The exponent may follow either letter or be missing; the end is the same.
  split at hread <;> obtain ⟨p, -, hread⟩ := bind_eq_ok.1 hread
  all_goals cases hfloat : scaledFloat? n (e + p.1) <;> simp [hfloat] at hread

theorem finishNumber_natural {negative : Bool} {digits cs rest : List Char} {k : Nat}
    (h : finishNumber negative digits cs = .ok (.natural k, rest)) : k ≤ maxWord := by
  have hle := appendDigits_le (Nat.zero_le maxWord) digits
  rw [finishNumber] at h
  -- Only digits without a sign in front of them, of which none is left over, are a whole number.
  split at h
  rename_i n left hdigits
  rw [hdigits] at hle
  split at h
  · split at h
    · exact absurd h (by simp)
    · exact absurd h (by simp)
    · split at h
      exact absurd h finishDecimal_ne_natural
  · exact absurd h finishDecimal_ne_natural
  · exact absurd h finishDecimal_ne_natural
  · split at h
    · exact absurd h finishDecimal_ne_natural
    · split at h
      · obtain ⟨rfl, -⟩ : n = k ∧ cs = rest := by simpa using h
        exact hle
      · split at h <;> exact absurd h (by simp)

/-- A whole number that was read is a word. -/
theorem readNumber_natural {cs rest : List Char} {k : Nat}
    (h : readNumber cs = .ok (.natural k, rest)) : k ≤ maxWord := by
  unfold readNumber at h
  split at h
  split at h
  · exact absurd h (by simp)
  · exact absurd h (by simp)
  · exact absurd h (by simp)
  · exact finishNumber_natural h

theorem yields_natural : Yields readNatural (· ≤ maxWord) := by
  refine yields_value fun c cs n rest hread => ?_
  split at hread
  · obtain ⟨⟨number, _⟩, hnumber, hread⟩ := bind_eq_ok.1 (Option.some.inj hread)
    cases number with
    | natural k =>
      obtain rfl : k = n := (Prod.mk.inj (Except.ok.inj hread)).1
      exact readNumber_natural hnumber
    | negative k => exact absurd hread (by simp)
    | decimal x => exact absurd hread (by simp)
  · exact absurd hread (by simp)

/-! ## Records have what their fields keep -/

section Records

variable {α β : Type} {fields : List (JsonField α)} {holds : α → Prop}

/-- A reader of changes gives changes that keep a property. -/
def Keeps (holds : α → Prop) (read : JsonReader (α → α)) : Prop :=
  Yields read fun change => ∀ x, holds x → holds (change x)

/-- The reader of a field keeps what holds of a record if setting the field does. -/
theorem keeps_fieldOf {read : JsonReader β} {sound : β → Prop} (h : Yields read sound)
    {set : β → α → α} (hset : ∀ y x, sound y → holds x → holds (set y x)) (name : String) :
    Keeps holds (fieldOf name read set).read := by
  intro cs change rest hread x hx
  obtain ⟨⟨y, _⟩, hvalue, heq⟩ := map_eq_ok.1 hread
  obtain rfl : set y = change := (Prod.mk.inj heq).1
  exact hset y x (h _ y _ hvalue) hx

/-- A record that is read as an array keeps what its fields keep. -/
theorem yields_fields (h : ∀ f ∈ fields, Keeps holds f.read) {x : α} (hx : holds x)
    (first : Bool) : Yields (readFields fields first x) holds := by
  induction fields generalizing x first with
  | nil =>
    intro cs y rest hread
    obtain rfl : x = y := (Prod.mk.inj (Except.ok.inj hread)).1
    exact hx
  | cons field fields ih =>
    have hfield := h field List.mem_cons_self
    have hmore := fun {x} (hx : holds x) => ih (fun f hf => h f (List.mem_cons_of_mem _ hf)) hx
    intro cs y rest hread
    rw [readFields] at hread
    obtain ⟨next, -, hread⟩ := bind_eq_ok.1 hread
    cases next with
    | none =>
      simp only at hread
      split at hread
      · exact hmore hx first _ y _ hread
      · exact absurd hread (by simp)
    | some cs =>
      obtain ⟨⟨change, _⟩, hvalue, hread⟩ := bind_eq_ok.1 hread
      exact hmore (hfield _ change _ hvalue x hx) false _ y _ hread

/-- A record that is read as an object keeps what its fields keep. -/
theorem yields_members (h : ∀ f ∈ fields, Keeps holds f.read) {x : α} (hx : holds x)
    (fuel : Nat) (first : Bool) (seen : List (List Char)) :
    Yields (CodeAtlas.readMembers fields fuel first seen x) holds := by
  -- By induction on the fuel; the record that was read so far has the property.
  induction fuel generalizing first seen x with
  | zero => exact fun cs y rest hread => absurd hread (by simp [CodeAtlas.readMembers])
  | succ fuel ih =>
    intro cs y rest hread
    rw [CodeAtlas.readMembers] at hread
    obtain ⟨next, -, hread⟩ := bind_eq_ok.1 hread
    cases next with
    | none =>
      simp only at hread
      split at hread
      · obtain rfl : x = y := (Prod.mk.inj (Except.ok.inj hread)).1
        exact hx
      · exact absurd hread (by simp)
    | some cs =>
      obtain ⟨⟨key, _⟩, -, hread⟩ := bind_eq_ok.1 hread
      simp only at hread
      split at hread
      -- A key that is not known changes nothing.
      · obtain ⟨_, -, hread⟩ := bind_eq_ok.1 hread
        obtain ⟨_, -, hread⟩ := bind_eq_ok.1 hread
        exact ih hx false seen _ y _ hread
      · rename_i field hfound
        split at hread
        · exact absurd hread (by simp)
        · obtain ⟨_, -, hread⟩ := bind_eq_ok.1 hread
          obtain ⟨⟨change, _⟩, hvalue, hread⟩ := bind_eq_ok.1 hread
          have hfield := h field (List.mem_of_find?_eq_some hfound)
          exact ih (hfield _ change _ hvalue x hx) false (key :: seen) _ y _ hread

/-- A record has a property that the blank record has and that every field keeps, whether it was an
object or an array. -/
theorem yields_record (h : ∀ f ∈ fields, Keeps holds f.read) {blank : α} (hblank : holds blank) :
    Yields (readRecord fields blank) holds := by
  refine yields_value fun c cs x rest hread => ?_
  split at hread
  · obtain ⟨⟨y, _⟩, hfields, hread⟩ := bind_eq_ok.1 (Option.some.inj hread)
    obtain ⟨_, -, hread⟩ := bind_eq_ok.1 hread
    obtain rfl : y = x := (Prod.mk.inj (Except.ok.inj hread)).1
    exact yields_fields h hblank true _ y _ hfields
  · split at hread
    · obtain ⟨⟨y, _⟩, hmembers, hread⟩ := bind_eq_ok.1 (Option.some.inj hread)
      have hy := yields_members h hblank _ true [] _ y _ hmembers
      simp only at hread
      split at hread
      · obtain rfl : y = x := (Prod.mk.inj (Except.ok.inj hread)).1
        exact hy
      · exact absurd hread (by simp)
      · exact absurd hread (by simp)
    · exact absurd hread (by simp)

end Records

/-! ## Symbols -/

namespace Symbol

def InRange (s : Symbol) : Prop := ∀ n ∈ s.line, n ≤ maxWord

theorem yields_read : Yields read InRange := by
  have hkind : Yields SymbolKind.read fun _ => True := fun _ _ _ _ => trivial
  have hname : Yields readText fun _ => True := fun _ _ _ _ => trivial
  refine yields_record (fun f hf => ?_) (by simp [InRange])
  rw [fields, List.mem_cons, List.mem_cons, List.mem_singleton] at hf
  rcases hf with rfl | rfl | rfl
  · refine keeps_fieldOf hkind ?_ "kind"
    exact fun _ _ _ h => h
  · refine keeps_fieldOf hname ?_ "name"
    exact fun _ _ _ h => h
  · have hset : ∀ line, ∀ s : Symbol, (∀ n ∈ line, n ≤ maxWord) → s.InRange →
        InRange { s with line := line } := fun _ _ hline _ => hline
    exact keeps_fieldOf (yields_option yields_natural) hset "line"

end Symbol

/-! ## Counts -/

namespace ScanStats

def InRange (s : ScanStats) : Prop := ∀ c ∈ counters, c.get s ≤ maxWord

/-- No two counts are written under the same key. -/
theorem nodup_names : (counters.map (·.name.toList)).Nodup := by decide

/-- Setting a count is seen by this count only. -/
theorem get_set : ∀ c ∈ counters, ∀ d ∈ counters, ∀ n s,
    d.get (c.set n s) = if d.name = c.name then n else d.get s := by
  simp [counters]

/-- Counts are all that there is. -/
theorem foldl_set (s : ScanStats) : counters.foldl (fun t c => c.set (c.get s) t) {} = s := rfl

theorem yields_read : Yields read InRange := by
  refine yields_record (fun f hf => ?_) (by simp [InRange, counters])
  obtain ⟨c, hc, rfl⟩ := List.mem_map.1 hf
  refine keeps_fieldOf yields_natural (fun n s hn hs d hd => ?_) c.name
  rw [get_set c hc d hd]
  split
  · exact hn
  · exact hs d hd

/-- The counts behind some others fill a record one after the other. -/
theorem fills {s : ScanStats} (h : s.InRange) {done rest : List Counter}
    (hsplit : counters = done ++ rest) (t : ScanStats) :
    Fills (counters.map fun c => fieldOf c.name readNatural c.set)
      (done.reverse.map (·.name.toList)) t
      (rest.map fun c => (c.name.toList, .natural (c.get s)))
      (rest.foldl (fun t c => c.set (c.get s) t) t) := by
  induction rest generalizing done t with
  | nil =>
    refine .done fun f hf _ => ?_
    obtain ⟨c, hc, rfl⟩ := List.mem_map.1 hf
    rw [hsplit, List.append_nil] at hc
    exact List.mem_map.2 ⟨c, List.mem_reverse.2 hc, rfl⟩
  | cons c rest ih =>
    have hnodup := nodup_names
    rw [hsplit, List.map_append, List.map_cons, List.nodup_append] at hnodup
    -- No count in front has the same key, so the key leads to this one, and it is new.
    have hnew : ∀ d ∈ done, d.name.toList ≠ c.name.toList := fun d hd =>
      hnodup.2.2 _ (List.mem_map.2 ⟨d, hd, rfl⟩) _ List.mem_cons_self
    have hc : c ∈ counters := by simp [hsplit]
    refine .member ?_ ?_ (reads_fieldOf (reads_natural (h c hc)) c.name c.set) ?_
    · rw [hsplit, List.map_append, List.map_cons]
      refine List.find?_eq_some_iff_append.2 ⟨by simp [fieldOf], _, _, rfl, fun f hf => ?_⟩
      obtain ⟨d, hd, rfl⟩ := List.mem_map.1 hf
      simpa [fieldOf] using hnew d hd
    · simpa using hnew
    · have hmore : counters = (done ++ [c]) ++ rest := by simp [hsplit]
      simpa using ih hmore (c.set (c.get s) t)

/-- Counts are read back. -/
theorem reads {s : ScanStats} (h : s.InRange) : Reads read s.toJson s := by
  have hfills := fills h (List.nil_append counters).symm {}
  rw [foldl_set] at hfills
  have hjson : s.toJson = .object (counters.map fun c => (c.name.toList, .natural (c.get s))) := by
    rw [toJson, JsonValue.record, List.map_map]
    rfl
  rw [hjson]
  exact hfills.reads

end ScanStats

/-! ## Writing and reading -/

section RoundTrips

variable {α : Type}

def recode (read : JsonReader α) (toJson : α → JsonValue) (text : List Char) :
    Except JsonFault (List Char) :=
  (readWhole read text).map fun x => (toJson x).render .compact

/-- Reading undoes writing, and writing undoes reading as far as it can. -/
structure RoundTrips (read : JsonReader α) (toJson : α → JsonValue) (inRange : α → Prop) :
    Prop where
  /-- What is written is read as the same value, in either style. -/
  decoded : ∀ x, inRange x → ∀ style, readWhole read ((toJson x).render style) = .ok x
  /-- Any text that can be read is written as a text that is read as the same value, and this text
  stays as it is. -/
  recoded : ∀ text x, readWhole read text = .ok x →
    inRange x ∧ ∃ text', recode read toJson text = .ok text' ∧
      readWhole read text' = .ok x ∧ recode read toJson text' = .ok text'

/-- A text that is read whole has what its reader guarantees. -/
theorem Yields.readWhole {read : JsonReader α} {holds : α → Prop} (h : Yields read holds)
    {text : List Char} {x : α} (hread : CodeAtlas.readWhole read text = .ok x) : holds x := by
  rw [CodeAtlas.readWhole] at hread
  obtain ⟨⟨y, _⟩, hvalue, hread⟩ := bind_eq_ok.1 hread
  simp only at hread
  split at hread
  · obtain rfl : y = x := Except.ok.inj hread
    exact h _ y _ hvalue
  · exact absurd hread (by simp)

/-- A reader that takes what is written, and yields only what is in range, round-trips. -/
theorem RoundTrips.of_reads {read : JsonReader α} {toJson : α → JsonValue} {inRange : α → Prop}
    (hreads : ∀ x, inRange x → Reads read (toJson x) x) (hyields : Yields read inRange) :
    RoundTrips read toJson inRange where
  decoded := fun x hx style => (hreads x hx).readWhole style
  recoded := by
    intro text x hread
    have hx := hyields.readWhole hread
    have hback := (hreads x hx).readWhole .compact
    exact ⟨hx, _, by rw [recode, hread]; rfl, hback, by rw [recode, hback]; rfl⟩

end RoundTrips

/-- The records that are exchanged are the same after writing and reading, as long as their numbers
are words; and whatever text they were read from, they are written in one way. -/
theorem records_roundTrip :
    RoundTrips Symbol.read Symbol.toJson Symbol.InRange ∧
    RoundTrips (readList Symbol.read) symbolListJson (fun symbols => ∀ s ∈ symbols, s.InRange) ∧
    RoundTrips ScanStats.read ScanStats.toJson ScanStats.InRange ∧
    RoundTrips OutlineReply.read OutlineReply.toJson fun _ => True := by
  exact ⟨.of_reads (fun s => Symbol.reads) Symbol.yields_read,
    .of_reads (fun symbols => symbolList_reads) (yields_list Symbol.yields_read),
    .of_reads (fun s => ScanStats.reads) ScanStats.yields_read,
    .of_reads (fun r _ => r.reads) fun _ _ _ _ => trivial⟩

/-- A symbol as an array, with blanks and an escape. -/
example : recode Symbol.read Symbol.toJson "[ \"class\", \"\\u0041\"]".toList
    = .ok "\x7b\"kind\":\"class\",\"name\":\"A\"\x7d".toList := by decide

end CodeAtlas
