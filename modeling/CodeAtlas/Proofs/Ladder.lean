import CodeAtlas.Outline.Ladder

/-!
# Which grammar gives the symbols

A script is read by the grammar of its own language, and if that reading has errors, by the grammar
that admits the most. What is found in it depends on whether these two readings have errors that
count.

- `chooseReading_of_clean`, `chooseReading_of_retry`, `chooseReading_of_faulty`: the choice between
  two readings.
- `extractSymbols_of_own`, `extractSymbols_of_wide`, `extractSymbols_of_neither`: what is found in a
  script, by the errors of the two trees.
- `Rung`: the four ways in which the symbols of a script come about.
- `extractSymbols_ladder`: which outcome there is, and what languages and settings have to do with
  it.
-/

namespace CodeAtlas

/-! ## Two readings -/

section Readings

variable {own retry : FileSymbols} {wide : Unit → Option FileSymbols}

/-- A reading without errors is chosen, whatever the other one is. -/
theorem chooseReading_of_clean (hown : own.hasErrors = false) (lenient : Bool) :
    chooseReading lenient own wide = (own.symbols, .parsed) := by
  simp [chooseReading, hown]

/-- After a reading with errors, another one without errors is chosen. -/
theorem chooseReading_of_retry (hown : own.hasErrors = true) (hwide : wide () = some retry)
    (hretry : retry.hasErrors = false) (lenient : Bool) :
    chooseReading lenient own wide = (retry.symbols, .parsed) := by
  have hsome : (wide ()).filter (!·.hasErrors) = some retry :=
    Option.filter_eq_some_iff.2 ⟨hwide, by simp [hretry]⟩
  simp [chooseReading, hown, hsome]

/-- If there is no reading without errors, leniency decides. -/
theorem chooseReading_of_faulty (hown : own.hasErrors = true)
    (hwide : ∀ retry ∈ wide (), retry.hasErrors = true) (lenient : Bool) :
    chooseReading lenient own wide
      = if lenient then (own.symbols, .recovered) else ([], .unparsable) := by
  have hnone : (wide ()).filter (!·.hasErrors) = none :=
    Option.filter_eq_none_iff.2 fun retry hretry => by simp [hwide retry hretry]
  simp [chooseReading, hown, hnone]

end Readings

/-! ## Two trees -/

section Trees

variable {src : Source} {language : Language}

/-- A text has errors under a grammar iff its tree holds an error that counts. -/
theorem hasErrors_fileSymbols (language : Language) (lines : Bool) (src : Source) :
    (fileSymbols language lines src).hasErrors = hasFatalErrors (parse language.grammar src) := by
  rw [fileSymbols, SyntaxTree.fileSymbols]

/-- The symbols of a text under a grammar are those of its tree. -/
theorem symbols_fileSymbols (language : Language) (lines : Bool) (src : Source) :
    (fileSymbols language lines src).symbols = symbolsOf (parse language.grammar src) lines := by
  rw [fileSymbols, SyntaxTree.fileSymbols]

/-- If the own grammar finds no errors, it gives the symbols. -/
theorem extractSymbols_of_own (hown : hasFatalErrors (parse language.grammar src) = false)
    (options : OutlineOptions) :
    extractSymbols src language options
      = (symbolsOf (parse language.grammar src) options.lines, .parsed) := by
  rw [← hasErrors_fileSymbols language options.lines] at hown
  rw [extractSymbols, chooseReading_of_clean hown, symbols_fileSymbols]

/-- If only the wide grammar finds no errors, it gives the symbols. -/
theorem extractSymbols_of_wide (hown : hasFatalErrors (parse language.grammar src) = true)
    (hwide : hasFatalErrors (parse Language.tsx.grammar src) = false) (options : OutlineOptions) :
    extractSymbols src language options
      = (symbolsOf (parse Language.tsx.grammar src) options.lines, .parsed) := by
  -- The wide grammar is another one, since it does not agree with the own one on errors.
  have hother : language ≠ .tsx := by
    rintro rfl
    exact Bool.noConfusion (hown.symm.trans hwide)
  rw [← hasErrors_fileSymbols language options.lines] at hown
  rw [← hasErrors_fileSymbols .tsx options.lines] at hwide
  rw [extractSymbols, chooseReading_of_retry hown (if_neg hother) hwide, symbols_fileSymbols]

/-- If both grammars find errors, leniency decides between the symbols of the own grammar and
none. -/
theorem extractSymbols_of_neither (hown : hasFatalErrors (parse language.grammar src) = true)
    (hwide : hasFatalErrors (parse Language.tsx.grammar src) = true) (options : OutlineOptions) :
    extractSymbols src language options
      = if options.lenient then (symbolsOf (parse language.grammar src) options.lines, .recovered)
        else ([], .unparsable) := by
  rw [← hasErrors_fileSymbols language options.lines] at hown
  rw [← hasErrors_fileSymbols .tsx options.lines] at hwide
  rw [extractSymbols, ← symbols_fileSymbols]
  refine chooseReading_of_faulty hown (fun retry hretry => ?_) options.lenient
  split at hretry
  · exact absurd hretry (Option.not_mem_none retry)
  · have heq : fileSymbols .tsx options.lines src = retry := Option.mem_some.1 hretry
    exact heq ▸ hwide

end Trees

/-! ## All outcomes -/

/-- What may come of a script with the trees `own` and `wide` of its own grammar and of the wide
one. -/
inductive Rung (own wide : SyntaxTree) (options : OutlineOptions) :
    List Symbol × FileStatus → Prop where
  | own : hasFatalErrors own = false → Rung own wide options (symbolsOf own options.lines, .parsed)
  | wide : hasFatalErrors own = true → hasFatalErrors wide = false →
      Rung own wide options (symbolsOf wide options.lines, .parsed)
  | recovered : hasFatalErrors own = true → hasFatalErrors wide = true → options.lenient = true →
      Rung own wide options (symbolsOf own options.lines, .recovered)
  | unparsable : hasFatalErrors own = true → hasFatalErrors wide = true →
      options.lenient = false → Rung own wide options ([], .unparsable)

namespace Rung

variable {own wide : SyntaxTree} {options : OutlineOptions} {outcome : List Symbol × FileStatus}

/-- A script is parsed iff one of the two trees has no error that counts. -/
theorem parsed_iff (h : Rung own wide options outcome) :
    outcome.2 = .parsed ↔ hasFatalErrors own = false ∨ hasFatalErrors wide = false := by
  cases h with
  | own hown => simp [hown]
  | wide _ hwide => simp [hwide]
  | recovered hown hwide _ => simp [hown, hwide]
  | unparsable hown hwide _ => simp [hown, hwide]

/-- A text that was given is neither unreadable nor too large. -/
theorem status_ne (h : Rung own wide options outcome) :
    outcome.2 ≠ .unreadable ∧ outcome.2 ≠ .tooLarge := by
  cases h <;> simp

/-- Without leniency symbols are taken only from a tree without errors. -/
theorem symbols_of_strict (h : Rung own wide options outcome) (hstrict : options.lenient = false) :
    outcome.1 = [] ∨ ∃ tree, (tree = own ∨ tree = wide) ∧ hasFatalErrors tree = false ∧
      outcome.1 = symbolsOf tree options.lines := by
  cases h with
  | own hown => exact .inr ⟨own, .inl rfl, hown, rfl⟩
  | wide _ hwide => exact .inr ⟨wide, .inr rfl, hwide, rfl⟩
  | recovered _ _ hlenient => exact Bool.noConfusion (hstrict.symm.trans hlenient)
  | unparsable => exact .inl rfl

end Rung

/-- The symbols of a script come from one of the rungs. -/
theorem rung_extractSymbols (src : Source) (language : Language) (options : OutlineOptions) :
    Rung (parse language.grammar src) (parse Language.tsx.grammar src) options
      (extractSymbols src language options) := by
  cases hown : hasFatalErrors (parse language.grammar src) with
  | false =>
    rw [extractSymbols_of_own hown]
    exact .own hown
  | true =>
    cases hwide : hasFatalErrors (parse Language.tsx.grammar src) with
    | false =>
      rw [extractSymbols_of_wide hown hwide]
      exact .wide hown hwide
    | true =>
      rw [extractSymbols_of_neither hown hwide]
      cases hlenient : options.lenient with
      | true => exact .recovered hown hwide hlenient
      | false => exact .unparsable hown hwide hlenient

/-- A script is parsed if its own grammar or the wide one finds no errors in it. Then its symbols
are those of the own tree if that one has no errors, and else those of the wide tree, whether or not
the reading is lenient. Otherwise a strict reading gives no symbols, and a lenient one those of the
own tree. So what is parsed with the wide grammar is parsed in every language, and a strict reading
takes no symbols from a tree with errors. -/
theorem extractSymbols_ladder (src : Source) (language : Language) (options : OutlineOptions) :
    let own := parse language.grammar src
    let wide := parse Language.tsx.grammar src
    let outcome (lenient : Bool) :=
      extractSymbols src language { options with lenient := lenient }
    (∀ lenient, (outcome lenient).2 = .parsed ↔
      hasFatalErrors own = false ∨ hasFatalErrors wide = false) ∧
    (hasFatalErrors own = false →
      ∀ lenient, outcome lenient = (symbolsOf own options.lines, .parsed)) ∧
    (hasFatalErrors own = true → hasFatalErrors wide = false →
      ∀ lenient, outcome lenient = (symbolsOf wide options.lines, .parsed)) ∧
    (hasFatalErrors own = true → hasFatalErrors wide = true →
      outcome false = ([], .unparsable) ∧
      outcome true = (symbolsOf own options.lines, .recovered)) ∧
    (∀ lenient, (outcome lenient).2 ≠ .unreadable ∧ (outcome lenient).2 ≠ .tooLarge) ∧
    ((extractSymbols src .tsx options).2 = .parsed → ∀ lenient, (outcome lenient).2 = .parsed) ∧
    ((outcome false).1 = [] ∨ ∃ tree, (tree = own ∨ tree = wide) ∧
      hasFatalErrors tree = false ∧ (outcome false).1 = symbolsOf tree options.lines) := by
  intro own wide outcome
  have hrung : ∀ lenient, Rung own wide { options with lenient := lenient } (outcome lenient) :=
    fun lenient => rung_extractSymbols src language _
  refine ⟨fun lenient => (hrung lenient).parsed_iff, ?_, ?_, ?_, fun lenient =>
    (hrung lenient).status_ne, ?_, (hrung false).symbols_of_strict rfl⟩
  · exact fun hown lenient => extractSymbols_of_own hown _
  · exact fun hown hwide lenient => extractSymbols_of_wide hown hwide _
  · exact fun hown hwide => ⟨extractSymbols_of_neither hown hwide _,
      extractSymbols_of_neither hown hwide _⟩
  · intro hparsed lenient
    -- In the wide language the two trees are the same one.
    have hwide : hasFatalErrors wide = false :=
      (or_self_iff.1 ((rung_extractSymbols src .tsx options).parsed_iff.1 hparsed))
    exact (hrung lenient).parsed_iff.2 (.inr hwide)

end CodeAtlas
