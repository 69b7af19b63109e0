import CodeAtlas.Command.Arguments

/-!
# Options as they are written

- `GivenOption`: an option among the arguments.
- `Spells`, `readWord_of_spells`: the spellings of a number are read as the number.
- `Arguments.GivenBy`: options say what is asked for.
- `Arguments.givenBy_options`: there are such options for whatever may be asked for.
-/

namespace CodeAtlas

attribute [ext] Arguments

/-- An option as it is written among the arguments: a flag by its name or by its letter, or a setting
with its value behind an equals sign. -/
inductive GivenOption where
  | flag (f : Flag)
  | letter
  | setting (s : Setting) (value : String)
  deriving DecidableEq, Repr

namespace GivenOption

def text : GivenOption → String
  | flag f => "--" ++ f.name
  | letter => "-v"
  | setting s value => "--" ++ s.name ++ "=" ++ value

def flag? : GivenOption → Option Flag
  | flag f => some f
  | letter => some .verbose
  | setting _ _ => none

def value? (s : Setting) : GivenOption → Option String
  | setting s' value => if s' = s then some value else none
  | _ => none

def values (s : Setting) (options : List GivenOption) : List String := options.filterMap (value? s)

def count (f : Flag) (options : List GivenOption) : Nat := options.countP (·.flag? = some f)

/-- A flag gives no value to any setting. -/
theorem values_cons_of_flag? {o : GivenOption} {f : Flag} (ho : o.flag? = some f) (s : Setting)
    (options : List GivenOption) : values s (o :: options) = values s options := by
  cases o with
  | flag f | letter => rfl
  | setting s' value => cases ho

/-- A flag at the head of some options is counted with the others of its name. -/
theorem count_cons_of_flag? {o : GivenOption} {f : Flag} (ho : o.flag? = some f) (g : Flag)
    (options : List GivenOption) :
    count g (o :: options) = count g options + (decide (f = g)).toNat := by
  rw [count, List.countP_cons, ho, count]
  by_cases hfg : f = g <;> simp [hfg]

/-- A setting at the head of some options gives its value before the others. -/
@[simp] theorem values_cons_setting (s s' : Setting) (value : String) (options : List GivenOption) :
    values s (setting s' value :: options)
      = if s' = s then value :: values s options else values s options := by
  by_cases hs : s' = s <;> simp [values, value?, hs]

@[simp] theorem values_nil (s : Setting) : values s [] = [] := rfl

@[simp] theorem count_nil (f : Flag) : count f [] = 0 := rfl

@[simp] theorem values_append (s : Setting) (options more : List GivenOption) :
    values s (options ++ more) = values s options ++ values s more :=
  List.filterMap_append

@[simp] theorem values_map_flag (s : Setting) (flags : List Flag) :
    values s (flags.map flag) = [] := by
  simp [values, List.filterMap_map, value?, Function.comp_def]

@[simp] theorem values_map_setting (s s' : Setting) (list : List String) :
    values s (list.map (setting s')) = if s' = s then list else [] := by
  by_cases hs : s' = s <;>
    simp [values, List.filterMap_map, value?, Function.comp_def, hs]

@[simp] theorem count_append (f : Flag) (options more : List GivenOption) :
    count f (options ++ more) = count f options + count f more :=
  List.countP_append

@[simp] theorem count_map_setting (f : Flag) (s : Setting) (list : List String) :
    count f (list.map (setting s)) = 0 := by
  simp [count, List.countP_map, flag?, Function.comp_def]

@[simp] theorem count_map_flag (f : Flag) (flags : List Flag) :
    count f (flags.map flag) = flags.count f := by
  induction flags with
  | nil => rfl
  | cons g flags ih =>
    rw [List.map_cons, count_cons_of_flag? (f := g) rfl, ih, List.count_cons]
    by_cases hgf : g = f <;> simp [hgf]

/-- A setting sets no flag. -/
@[simp] theorem count_cons_setting (f : Flag) (s : Setting) (value : String)
    (options : List GivenOption) : count f (setting s value :: options) = count f options := by
  simp [count, flag?]

end GivenOption

/-! ## Numbers -/

/-- A text spells a number: its digits may stand behind zeros, and these behind a plus sign. -/
def Spells (text : String) (n : Nat) : Prop :=
  ∃ (sign : List Char) (zeros : Nat), (sign = [] ∨ sign = ['+']) ∧
    text.toList = sign ++ List.replicate zeros '0' ++ Nat.toDigits 10 n

theorem spells_toString (n : Nat) : Spells (toString n) n :=
  ⟨[], 0, .inl rfl, by simp⟩

/-- Zeros in front of digits do not change the number. -/
theorem ofDigitChars_replicate_zero_append (zeros : Nat) (digits : List Char) :
    Nat.ofDigitChars 10 (List.replicate zeros '0' ++ digits) 0 = Nat.ofDigitChars 10 digits 0 := by
  induction zeros with
  | zero => rfl
  | succ zeros ih => rw [List.replicate_succ, List.cons_append, Nat.ofDigitChars_cons]; exact ih

/-- Digits are read as the number that they stand for, with a plus sign or without. -/
theorem readWord_of_digits {text : String} {sign digits : List Char}
    (hsign : sign = [] ∨ sign = ['+']) (htext : text.toList = sign ++ digits) (hfull : digits ≠ [])
    (hall : ∀ c ∈ digits, c.isDigit = true) :
    readWord text = if Nat.ofDigitChars 10 digits 0 < Nat.pow 2 64 then
      some (Nat.ofDigitChars 10 digits 0) else none := by
  have hnone : (digits.isEmpty || digits.any fun c => c < '0' || '9' < c) = false := by
    rw [Bool.or_eq_false_iff, List.isEmpty_eq_false_iff, List.any_eq_false]
    refine ⟨hfull, fun c hc => ?_⟩
    have hdigit := hall c hc
    simp only [Char.isDigit, Bool.and_eq_true, decide_eq_true_eq] at hdigit
    simp only [Bool.or_eq_true, decide_eq_true_eq, not_or, Char.not_lt]
    exact hdigit
  rw [readWord, htext]
  rcases hsign with rfl | rfl
  -- No digit is a plus sign.
  · cases digits with
    | nil => exact absurd rfl hfull
    | cons c cs =>
      have hplus : ∀ rest, c :: cs = '+' :: rest → False := by
        intro rest heq
        rw [(List.cons.inj heq).1] at hall
        exact absurd (hall '+' List.mem_cons_self) (by decide)
      simp only [List.nil_append, hnone, Bool.false_eq_true, if_false]
      rfl
  · simp only [List.singleton_append, hnone, Bool.false_eq_true, if_false]
    rfl

/-- A number of 64 bits is read in all its spellings. -/
theorem readWord_of_spells {text : String} {n : Nat} (hn : n < Nat.pow 2 64) :
    Spells text n → readWord text = some n := by
  rintro ⟨sign, zeros, hsign, htext⟩
  have hall : ∀ c ∈ List.replicate zeros '0' ++ Nat.toDigits 10 n, c.isDigit = true := by
    intro c hc
    rcases List.mem_append.1 hc with hzero | hdigit
    · rw [List.eq_of_mem_replicate hzero]
      decide
    · exact Nat.isDigit_of_mem_toDigits (by decide) (by decide) hdigit
  have hfull : List.replicate zeros '0' ++ Nat.toDigits 10 n ≠ [] := by
    simp [Nat.toDigits_ne_nil]
  rw [List.append_assoc] at htext
  rw [readWord_of_digits hsign htext hfull hall, ofDigitChars_replicate_zero_append,
    Nat.ofDigitChars_ten_toDigits, if_pos hn]

/-! ## What options say -/

/-- The values of a setting give a number: there is none and the number is what it is by default, or
there is one, which spells the number. -/
def GivesNumber (values : List String) (default n : Nat) : Prop :=
  (values = [] ∧ n = default) ∨ ∃ value, values = [value] ∧ Spells value n

/-- The options say what is asked for, apart from the path and the output. Flags that are asked for
are set once, and others are not. The values of settings for several values stand in their order,
and a setting for a number is given once, or not at all for the number that it has by default.
Nothing is said of how options of different sorts stand among each other. -/
structure Arguments.GivenBy (a : Arguments) (options : List GivenOption) : Prop where
  flags : ∀ f, GivenOption.count f options = (f.isSet a).toNat
  excludeDirs : GivenOption.values .excludeDir options = a.excludeDirs
  ignore : GivenOption.values .ignore options = a.ignore
  maxFileSize : GivesNumber (GivenOption.values .maxFileSize options) ({} : Arguments).maxFileSize
    a.maxFileSize
  threads : GivesNumber (GivenOption.values .threads options) ({} : Arguments).threads a.threads

namespace Arguments

def options (a : Arguments) : List GivenOption :=
  (Flag.all.filter (·.isSet a)).map .flag ++ a.excludeDirs.map (.setting .excludeDir) ++
    a.ignore.map (.setting .ignore) ++
    [.setting .maxFileSize (toString a.maxFileSize), .setting .threads (toString a.threads)]

/-- There are options for whatever may be asked for. -/
theorem givenBy_options (a : Arguments) : a.GivenBy a.options where
  flags f := by
    have hflag : (Flag.all.filter (·.isSet a)).count f = (f.isSet a).toNat := by
      cases hset : f.isSet a with
      | true =>
        rw [List.count_filter hset]
        cases f <;> rfl
      | false => simp [List.count_eq_zero, hset]
    simp [options, hflag]
  excludeDirs := by simp [options]
  ignore := by simp [options]
  maxFileSize := .inr ⟨_, by simp [options], spells_toString _⟩
  threads := .inr ⟨_, by simp [options], spells_toString _⟩

end Arguments

end CodeAtlas
