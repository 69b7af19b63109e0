import Mathlib.Data.List.TakeWhile
import CodeAtlas.Proofs.Filters
import CodeAtlas.Proofs.GivenOptions

/-!
# Arguments in any order

Arguments are read back, in whatever order the options are written, as long as values stand behind
equals signs and the path and the output behind two dashes.

- `ArgumentReader.Ready.take_setting`: a value is taken as it is.
- `ArgumentReader.Remains`: what has been read and the options that remain say what is asked for.
- `ArgumentReader.Remains.step`, `ArgumentReader.Remains.run`: reading one option, or all of them,
  keeps this.
- `Arguments.read_givenOptions`: what is asked for is read back.
-/

namespace CodeAtlas

/-! ## Single options -/

/-- Setting a flag sets no other one. -/
theorem Flag.isSet_set (a : Arguments) (f g : Flag) :
    g.isSet (f.set a) = (g.isSet a || decide (f = g)) := by
  cases f <;> cases g <;> simp [isSet, set]

/-- Setting a flag leaves the settings alone. -/
theorem Flag.settings_set (a : Arguments) (f : Flag) :
    (f.set a).excludeDirs = a.excludeDirs ∧ (f.set a).ignore = a.ignore ∧
      (f.set a).maxFileSize = a.maxFileSize ∧ (f.set a).threads = a.threads := by
  cases f <;> exact ⟨rfl, rfl, rfl, rfl⟩

namespace ArgumentReader

/-- Without an equals sign an option is all name … -/
theorem splitEquals_of_not_mem {name : List Char} :
    '=' ∉ name → splitEquals name = (String.ofList name, none) := by
  intro hname
  have hall : ∀ c ∈ name, (!(c == '=')) = true := by
    intro c hc
    simpa using ne_of_mem_of_not_mem hc hname
  rw [splitEquals]
  simp only [List.takeWhile_eq_self_iff.2 hall, List.dropWhile_eq_nil_iff.2 hall]

/-- … and otherwise the first equals sign ends the name. -/
theorem splitEquals_append {name : List Char} (value : List Char) :
    '=' ∉ name →
      splitEquals (name ++ '=' :: value) = (String.ofList name, some (String.ofList value)) := by
  intro hname
  have hall : ∀ c ∈ name, (!(c == '=')) = true := by
    intro c hc
    simpa using ne_of_mem_of_not_mem hc hname
  rw [splitEquals]
  simp [List.takeWhile_append_of_pos hall, List.dropWhile_append_of_pos hall]

/-- Nothing waits, and no argument has been met that is no option. -/
structure Ready (r : ArgumentReader) : Prop where
  waiting : r.waiting = none
  positionals : r.positionals = 0
  onlyPositionals : r.onlyPositionals = false

theorem Ready.settle {r : ArgumentReader} (h : r.Ready) : r.settle = .ok r := by
  rw [ArgumentReader.settle, h.waiting]

/-- Only what is asked for changes. -/
theorem Ready.update {r : ArgumentReader} (h : r.Ready) (a : Arguments) (given : List Setting) :
    Ready { r with arguments := a, given := given } :=
  ⟨h.waiting, h.positionals, h.onlyPositionals⟩

/-- What stands behind two dashes is read as an option, if anything does. -/
theorem Ready.take_dashes {r : ArgumentReader} (h : r.Ready) {argument : String} {c : Char}
    {text : List Char} (hargument : argument.toList = '-' :: '-' :: c :: text) :
    r.take argument = r.takeLong (c :: text) := by
  rw [take, h.onlyPositionals, hargument]
  simp

/-- A flag that has not been set is set. -/
theorem Ready.take_flag {r : ArgumentReader} (h : r.Ready) {f : Flag}
    (hnew : f.isSet r.arguments = false) :
    r.take (GivenOption.flag f).text = .ok { r with arguments := f.set r.arguments } := by
  have hfound : CommandOption.ofName? f.name = some (.flag f) := by
    cases f <;> decide
  have hname : '=' ∉ f.name.toList := by
    cases f <;> decide
  obtain ⟨c, text, htext⟩ : ∃ c text, f.name.toList = c :: text := by
    cases f <;> exact ⟨_, _, rfl⟩
  have hargument : (GivenOption.flag f).text.toList = '-' :: '-' :: c :: text := by
    simp [GivenOption.text, htext]
  rw [h.take_dashes hargument, ← htext, takeLong, splitEquals_of_not_mem hname,
    String.ofList_toList]
  simp only [hfound]
  refine bind_eq_ok.2 ⟨r, h.settle, ?_⟩
  simp only [setFlag, hnew, Bool.false_eq_true, if_false]

theorem Ready.take_letter {r : ArgumentReader} (h : r.Ready)
    (hnew : r.arguments.verbose = false) :
    r.take GivenOption.letter.text
      = .ok { r with arguments := { r.arguments with verbose := true } } := by
  have hletter : r.take "-v" = r.takeLetters ['v'] := by
    rw [take, h.onlyPositionals]
    rfl
  have hset : r.takeOption (.flag .verbose) false
      = .ok { r with arguments := { r.arguments with verbose := true } } := by
    refine bind_eq_ok.2 ⟨r, h.settle, ?_⟩
    simp only [setFlag, Flag.isSet, hnew, Bool.false_eq_true, if_false, Flag.set]
  rw [GivenOption.text, hletter]
  exact bind_eq_ok.2 ⟨_, hset, rfl⟩

/-- A setting is given the whole text behind the first equals sign. -/
theorem Ready.take_setting {r : ArgumentReader} (h : r.Ready) (s : Setting) (value : String) :
    r.take (GivenOption.setting s value).text = r.setValue s value := by
  have hfound : CommandOption.ofName? s.name = some (.setting s) := by
    cases s <;> decide
  have hname : '=' ∉ s.name.toList := by
    cases s <;> decide
  obtain ⟨c, text, htext⟩ : ∃ c text, s.name.toList = c :: text := by
    cases s <;> exact ⟨_, _, rfl⟩
  have hargument : (GivenOption.setting s value).text.toList
      = '-' :: '-' :: c :: (text ++ '=' :: value.toList) := by
    simp [GivenOption.text, htext]
  rw [h.take_dashes hargument, ← List.cons_append, ← htext, takeLong,
    splitEquals_append _ hname, String.ofList_toList, String.ofList_toList]
  simp only [hfound]
  rw [h.settle]
  rfl

/-! ## All options -/

/-- What has been read of a number and the values that remain give the number: it has been read, and
no value remains, or it has not been given, and one value remains. -/
def NumberRemains (given : List Setting) (s : Setting) (found : Nat) (values : List String)
    (n : Nat) : Prop :=
  (values = [] ∧ found = n) ∨ (s ∉ given ∧ ∃ value, values = [value] ∧ readWord value = some n)

/-- What has been read and the options that remain say together what is asked for. -/
structure Remains (a : Arguments) (options : List GivenOption) (r : ArgumentReader) : Prop where
  ready : r.Ready
  flags : ∀ f, (f.isSet r.arguments).toNat + GivenOption.count f options = (f.isSet a).toNat
  excludeDirs : r.arguments.excludeDirs ++ GivenOption.values .excludeDir options = a.excludeDirs
  ignore : r.arguments.ignore ++ GivenOption.values .ignore options = a.ignore
  maxFileSize : NumberRemains r.given .maxFileSize r.arguments.maxFileSize
    (GivenOption.values .maxFileSize options) a.maxFileSize
  threads : NumberRemains r.given .threads r.arguments.threads
    (GivenOption.values .threads options) a.threads

/-- At first nothing has been read. -/
theorem remains_start {a : Arguments} {options : List GivenOption} (h : a.GivenBy options)
    (hsize : a.maxFileSize < Nat.pow 2 64) (hthreads : a.threads < Nat.pow 2 64) :
    Remains a options {} := by
  have hnumber : ∀ {s values default n}, n < Nat.pow 2 64 → GivesNumber values default n →
      NumberRemains [] s default values n := by
    rintro s values default n hn (⟨rfl, rfl⟩ | ⟨value, rfl, hspells⟩)
    · exact .inl ⟨rfl, rfl⟩
    · exact .inr ⟨List.not_mem_nil, value, rfl, readWord_of_spells hn hspells⟩
  refine ⟨⟨rfl, rfl, rfl⟩, ?_, h.excludeDirs, h.ignore, hnumber hsize h.maxFileSize,
    hnumber hthreads h.threads⟩
  intro f
  have hnone : f.isSet {} = false := by
    cases f <;> rfl
  rw [hnone, Bool.toNat_false, Nat.zero_add, h.flags]

/-- Reading a flag leaves what the other options say. -/
theorem Remains.step_flag {a : Arguments} {f : Flag} {o : GivenOption}
    {options : List GivenOption} {r : ArgumentReader} (h : r.Remains a (o :: options))
    (ho : o.flag? = some f) :
    ∃ next, r.take o.text = .ok next ∧ next.Remains a options := by
  obtain ⟨hready, hflags, hexclude, hignore, hsize, hthreads⟩ := h
  simp only [GivenOption.count_cons_of_flag? ho] at hflags
  rw [GivenOption.values_cons_of_flag? ho] at hexclude hignore hsize hthreads
  -- The flag is set here, so it has not been set before.
  have hnew : f.isSet r.arguments = false := by
    have hone := hflags f
    rw [decide_eq_true rfl, Bool.toNat_true] at hone
    have hbound := (f.isSet a).toNat_le
    exact Bool.toNat_eq_zero.1 (by omega)
  have htake : r.take o.text = .ok { r with arguments := f.set r.arguments } := by
    cases o with
    | flag f' =>
      obtain rfl : f' = f := Option.some.inj ho
      exact hready.take_flag hnew
    | letter =>
      obtain rfl : Flag.verbose = f := Option.some.inj ho
      exact hready.take_letter hnew
    | setting s value => cases ho
  obtain ⟨hexclude', hignore', hsize', hthreads'⟩ := f.settings_set r.arguments
  refine ⟨_, htake, hready.update _ _, ?_, by rwa [hexclude'], by rwa [hignore'],
    by rwa [hsize'], by rwa [hthreads']⟩
  · intro g
    have hg := hflags g
    by_cases hfg : f = g
    · subst hfg
      simp only [Flag.isSet_set, hnew, decide_true, Bool.or_true, Bool.toNat_true,
        Bool.toNat_false] at hg ⊢
      omega
    · simpa [Flag.isSet_set, hfg] using hg

/-- One value is all that remains of a number that is given. -/
theorem NumberRemains.of_cons {given : List Setting} {s : Setting} {found n : Nat} {value : String}
    {values : List String} :
    NumberRemains given s found (value :: values) n →
      s ∉ given ∧ values = [] ∧ readWord value = some n := by
  rintro (⟨hnone, -⟩ | ⟨hgiven, value', hvalues, hread⟩)
  · cases hnone
  · obtain ⟨rfl, rfl⟩ := List.cons.inj hvalues
    exact ⟨hgiven, rfl, hread⟩

/-- Another number may be given meanwhile. -/
theorem NumberRemains.of_given {given : List Setting} {s s' : Setting} {found n : Nat}
    {values : List String} (hne : s ≠ s') :
    NumberRemains given s found values n → NumberRemains (s' :: given) s found values n := by
  rintro (hread | ⟨hgiven, hvalue⟩)
  · exact .inl hread
  · exact .inr ⟨by simp [hne, hgiven], hvalue⟩

/-- A setting for a number that has not been given takes the number that its text stands for. -/
theorem setNumber_eq_ok {r : ArgumentReader} {s : Setting} {value : String} {n : Nat}
    {set : Nat → Arguments} (hgiven : s ∉ r.given) (hread : readWord value = some n) :
    r.setNumber s value set = .ok { r with arguments := set n, given := s :: r.given } := by
  rw [setNumber, if_neg (by simpa using hgiven), hread]

/-- Reading a setting leaves what the other options say. -/
theorem Remains.step_setting {a : Arguments} {s : Setting} {value : String}
    {options : List GivenOption} {r : ArgumentReader}
    (h : r.Remains a (.setting s value :: options)) :
    ∃ next, r.setValue s value = .ok next ∧ next.Remains a options := by
  obtain ⟨hready, hflags, hexclude, hignore, hsize, hthreads⟩ := h
  simp only [GivenOption.count_cons_setting] at hflags
  rw [GivenOption.values_cons_setting] at hexclude hignore hsize hthreads
  -- A value moves from those that remain to the end of those that were read; a number is read once.
  cases s with
  | excludeDir =>
    refine ⟨_, rfl, hready.update _ _, hflags, ?_, hignore, hsize, hthreads⟩
    rw [if_pos rfl, ← List.singleton_append, ← List.append_assoc] at hexclude
    exact hexclude
  | ignore =>
    refine ⟨_, rfl, hready.update _ _, hflags, hexclude, ?_, hsize, hthreads⟩
    rw [if_pos rfl, ← List.singleton_append, ← List.append_assoc] at hignore
    exact hignore
  | maxFileSize =>
    rw [if_pos rfl] at hsize
    obtain ⟨hgiven, hnone, hread⟩ := hsize.of_cons
    exact ⟨_, setNumber_eq_ok hgiven hread, hready.update _ _, hflags, hexclude, hignore,
      .inl ⟨hnone, rfl⟩, NumberRemains.of_given (by decide) hthreads⟩
  | threads =>
    rw [if_pos rfl] at hthreads
    obtain ⟨hgiven, hnone, hread⟩ := hthreads.of_cons
    exact ⟨_, setNumber_eq_ok hgiven hread, hready.update _ _, hflags, hexclude, hignore,
      NumberRemains.of_given (by decide) hsize, .inl ⟨hnone, rfl⟩⟩

/-- Reading an option leaves what the other options say. -/
theorem Remains.step {a : Arguments} {o : GivenOption} {options : List GivenOption}
    {r : ArgumentReader} (h : r.Remains a (o :: options)) :
    ∃ next, r.take o.text = .ok next ∧ next.Remains a options := by
  cases o with
  | flag f => exact h.step_flag rfl
  | letter => exact h.step_flag rfl
  | setting s value =>
    rw [h.ready.take_setting]
    exact h.step_setting

/-- Reading all options leaves what stands behind them, and all that they say has been read. -/
theorem Remains.run {a : Arguments} {options : List GivenOption} {r : ArgumentReader}
    (h : r.Remains a options) (rest : List String) :
    ∃ last : ArgumentReader, r.takeAll (options.map GivenOption.text ++ rest) = last.takeAll rest ∧
      last.Remains a [] := by
  induction options generalizing r with
  | nil => exact ⟨r, rfl, h⟩
  | cons o options ih =>
    obtain ⟨next, htake, hnext⟩ := h.step
    obtain ⟨last, hall, hlast⟩ := ih hnext
    refine ⟨last, ?_, hlast⟩
    rw [List.map_cons, List.cons_append, takeAll, htake]
    exact hall

/-- When no value remains, the number has been read. -/
theorem NumberRemains.found_eq {given : List Setting} {s : Setting} {found n : Nat} :
    NumberRemains given s found [] n → found = n := by
  rintro (⟨-, hfound⟩ | ⟨-, value, hvalues, -⟩)
  · exact hfound
  · cases hvalues

/-- When no option remains, all has been read but the path and the output. -/
theorem Remains.arguments_eq {a : Arguments} {r : ArgumentReader} (h : r.Remains a []) :
    { r.arguments with path := a.path, output := a.output } = a := by
  have hflag : ∀ f : Flag, f.isSet r.arguments = f.isSet a := by
    intro f
    have hf : (f.isSet r.arguments).toNat = (f.isSet a).toNat := h.flags f
    cases hset : f.isSet r.arguments <;> cases hasked : f.isSet a <;> simp [hset, hasked] at hf ⊢
  have hexclude : r.arguments.excludeDirs = a.excludeDirs := by
    rw [← h.excludeDirs]
    exact (List.append_nil _).symm
  have hignore : r.arguments.ignore = a.ignore := by
    rw [← h.ignore]
    exact (List.append_nil _).symm
  exact Arguments.ext rfl rfl (hflag .compact) (hflag .lines) (hflag .lenient) hexclude
    (hflag .noDefaultExcludes) hignore (hflag .gitignore) (hflag .followSymlinks)
    h.maxFileSize.found_eq h.threads.found_eq (hflag .verbose)

/-- Behind two dashes, two arguments are the path and the output, whatever they look like. -/
theorem Ready.takeAll_positionals {r : ArgumentReader} (h : r.Ready) {path output : String}
    (hpath : path ≠ "") (houtput : output ≠ "") :
    (r.takeAll ["--", path, output]).map (·.arguments)
      = .ok { r.arguments with path := path, output := output } := by
  have hdashes : r.take "--" = .ok { r with onlyPositionals := true } := by
    rw [take, h.onlyPositionals]
    rfl
  have hfirst : ({ r with onlyPositionals := true } : ArgumentReader).take path
      = .ok { r with
          onlyPositionals := true, waiting := some (.positional 0 path), positionals := 1 } := by
    simp only [take, if_true, takePositional, h.positionals, ArgumentReader.settle, h.waiting]
    rfl
  -- The path is looked at when the output is met, and the output when nothing is left.
  have hsecond : ({ r with
      onlyPositionals := true, waiting := some (.positional 0 path), positionals := 1 } :
        ArgumentReader).take output
      = .ok { r with
          arguments := { r.arguments with path := path }, onlyPositionals := true,
          waiting := some (.positional 1 output), positionals := 2 } := by
    simp only [take, if_true, takePositional, ArgumentReader.settle, String.isEmpty_iff, hpath,
      if_false]
    rfl
  have hlast : ({ r with
      arguments := { r.arguments with path := path }, onlyPositionals := true,
      waiting := some (.positional 1 output), positionals := 2 } : ArgumentReader).settle
      = .ok { r with
          arguments := { r.arguments with path := path, output := output },
          onlyPositionals := true, waiting := none, positionals := 2 } := by
    simp [ArgumentReader.settle, houtput]
  have hall : r.takeAll ["--", path, output] = _ :=
    bind_eq_ok.2 ⟨_, hdashes, bind_eq_ok.2 ⟨_, hfirst, bind_eq_ok.2 ⟨_, hsecond, hlast⟩⟩⟩
  rw [hall]
  rfl

end ArgumentReader

namespace Arguments

/-- Arguments round-trip in any order. Whatever is asked for can be given by options, and in whatever
order options give it, they are read as exactly that, if two dashes stand behind them, and then the
path and the output. No value needs to be spared: it may be empty, hold equals signs or look like an
option. -/
theorem read_givenOptions (a : Arguments) (hpath : a.path ≠ "") (houtput : a.output ≠ "")
    (hsize : a.maxFileSize < Nat.pow 2 64) (hthreads : a.threads < Nat.pow 2 64) :
    (∃ options, a.GivenBy options) ∧
    ∀ options, a.GivenBy options →
      read (options.map GivenOption.text ++ ["--", a.path, a.output]) = .ok a := by
  refine ⟨⟨a.options, a.givenBy_options⟩, ?_⟩
  intro options hgiven
  have hstart := ArgumentReader.remains_start hgiven hsize hthreads
  obtain ⟨last, hrun, hlast⟩ := hstart.run ["--", a.path, a.output]
  calc read (options.map GivenOption.text ++ ["--", a.path, a.output])
    _ = (last.takeAll ["--", a.path, a.output]).map (·.arguments) := by rw [read, hrun]
    _ = .ok { last.arguments with path := a.path, output := a.output } :=
        hlast.ready.takeAll_positionals hpath houtput
    _ = .ok a := by rw [hlast.arguments_eq]

/-- Arguments with values that look like something else. -/
def hostileArguments : Arguments where
  path := "--"
  output := "--verbose"
  lenient := true
  excludeDirs := ["", "--ignore=x"]
  ignore := ["a=b"]
  maxFileSize := 18446744073709551615
  verbose := true

/-- Options that give them, with the values of one setting apart from each other. -/
def hostileOptions : List GivenOption :=
  [.setting .excludeDir "", .letter, .setting .ignore "a=b", .setting .excludeDir "--ignore=x",
    .setting .maxFileSize "+018446744073709551615", .flag .lenient]

theorem givenBy_hostileOptions : hostileArguments.GivenBy hostileOptions where
  flags f := by cases f <;> rfl
  excludeDirs := rfl
  ignore := rfl
  maxFileSize := .inr ⟨_, rfl, ['+'], 1, .inr rfl, by decide⟩
  threads := .inl ⟨rfl, rfl⟩

theorem read_givenOptions_hostile :
    hostileArguments.path ≠ "" ∧ hostileArguments.output ≠ "" ∧
    hostileArguments.maxFileSize < Nat.pow 2 64 ∧ hostileArguments.threads < Nat.pow 2 64 ∧
    hostileArguments.GivenBy hostileOptions ∧
    read ["--exclude-dir=", "-v", "--ignore=a=b", "--exclude-dir=--ignore=x",
      "--max-file-size=+018446744073709551615", "--lenient", "--", "--", "--verbose"]
        = .ok hostileArguments := by
  have hsize : hostileArguments.maxFileSize < Nat.pow 2 64 := by decide
  have hthreads : hostileArguments.threads < Nat.pow 2 64 := by decide
  have hread := (read_givenOptions hostileArguments (by decide) (by decide) hsize hthreads).2
    hostileOptions givenBy_hostileOptions
  exact ⟨by decide, by decide, hsize, hthreads, givenBy_hostileOptions, hread⟩

end Arguments

end CodeAtlas
