import CodeAtlas.Ignore.Filter

/-!
# The filter of some settings

- `ScanConfig.Excludes`: the names that some settings exclude.
- `ScanConfig.mem_excludedNames`: they are the names of the filter.
- `IgnoreFilter.mem_of_readGlobs`: the globs of a filter are those of the patterns.
- `IgnoreFilter.ignores_mono`: with more names, globs and rules more is passed over.
- `IgnoreFilter.ofConfig_eq_ok`: what a filter is made of.
-/

namespace CodeAtlas

/-! ## Names -/

namespace ScanConfig

def Excludes (c : ScanConfig) (name : String) : Prop :=
  (c.defaultExcludes = true ∧ name ∈ defaultExcludedNames) ∨ name ∈ c.excludedDirs

theorem mem_addName {names : List String} {name x : String} :
    x ∈ addName names name ↔ x ∈ names ∨ x = name := by
  rw [addName]
  split
  · rename_i hthere
    rw [List.contains_iff_mem] at hthere
    constructor
    · exact .inl
    · rintro (hx | rfl)
      · exact hx
      · exact hthere
  · rw [List.mem_append, List.mem_singleton]

theorem mem_foldl_addName {more names : List String} {x : String} :
    x ∈ more.foldl addName names ↔ x ∈ names ∨ x ∈ more := by
  induction more generalizing names with
  | nil => simp
  | cons name rest ih => rw [List.foldl_cons, ih, mem_addName, List.mem_cons, or_assoc]

/-- The names that are passed over are those that the settings exclude. -/
theorem mem_excludedNames {c : ScanConfig} {name : String} :
    name ∈ c.excludedNames ↔ c.Excludes name := by
  rw [excludedNames, mem_foldl_addName, Excludes]
  cases c.defaultExcludes <;> simp

end ScanConfig

/-! ## Globs -/

/-- A computation of two steps succeeds iff both steps do. -/
theorem bind_eq_ok {ε α β : Type} {x : Except ε α} {f : α → Except ε β} {b : β} :
    x >>= f = .ok b ↔ ∃ a, x = .ok a ∧ f a = .ok b := by
  cases x <;> simp [bind, Except.bind]

theorem map_eq_ok {ε α β : Type} {x : Except ε α} {f : α → β} {b : β} :
    x.map f = .ok b ↔ ∃ a, x = .ok a ∧ f a = b := by
  cases x <;> simp [Except.map]

namespace IgnoreFilter

/-- Patterns are read one by one, and each must be a glob. -/
theorem readGlobs_cons_eq_ok {pattern : String} {rest : List String} {globs : List Glob} :
    readGlobs (pattern :: rest) = .ok globs ↔ ∃ glob others,
      Glob.read rules pattern.toList = .ok glob ∧ readGlobs rest = .ok others ∧
        globs = glob :: others := by
  simp only [readGlobs, List.mapM_cons, bind_eq_ok]
  cases Glob.read rules pattern.toList with
  | error fault => simp
  | ok glob => simp [pure, Except.pure, eq_comm]

/-- The globs are those that the patterns describe. -/
theorem mem_of_readGlobs {patterns : List String} {globs : List Glob}
    (h : readGlobs patterns = .ok globs) {glob : Glob} :
    glob ∈ globs ↔ ∃ pattern ∈ patterns, Glob.read rules pattern.toList = .ok glob := by
  induction patterns generalizing globs with
  | nil =>
    obtain rfl : [] = globs := by simpa [readGlobs, pure, Except.pure] using h
    simp
  | cons pattern rest ih =>
    obtain ⟨first, others, hfirst, hothers, rfl⟩ := readGlobs_cons_eq_ok.1 h
    rw [List.mem_cons, ih hothers]
    simp [hfirst, eq_comm]

/-- There are globs, if each pattern describes one. -/
theorem exists_readGlobs_iff {patterns : List String} :
    (∃ globs, readGlobs patterns = .ok globs) ↔
      ∀ pattern ∈ patterns, ∃ glob, Glob.read rules pattern.toList = .ok glob := by
  induction patterns with
  | nil => simp [readGlobs, pure, Except.pure]
  | cons pattern rest ih =>
    rw [List.forall_mem_cons, ← ih]
    simp only [readGlobs_cons_eq_ok]
    constructor
    · rintro ⟨-, glob, others, hglob, hothers, -⟩
      exact ⟨⟨glob, hglob⟩, others, hothers⟩
    · rintro ⟨⟨glob, hglob⟩, others, hothers⟩
      exact ⟨_, glob, others, hglob, hothers, rfl⟩

/-- Fewer patterns describe fewer globs. -/
theorem exists_readGlobs_of_subset {patterns patterns' : List String} {globs' : List Glob}
    (hsubset : patterns ⊆ patterns') (h : readGlobs patterns' = .ok globs') :
    ∃ globs, readGlobs patterns = .ok globs ∧ globs ⊆ globs' := by
  have hall := exists_readGlobs_iff.1 ⟨globs', h⟩
  obtain ⟨globs, hglobs⟩ := exists_readGlobs_iff.2 fun p hp => hall p (hsubset hp)
  refine ⟨globs, hglobs, ?_⟩
  intro glob hglob
  obtain ⟨pattern, hpattern, hread⟩ := (mem_of_readGlobs hglobs).1 hglob
  exact (mem_of_readGlobs h).2 ⟨pattern, hsubset hpattern, hread⟩

/-! ## Filters -/

/-- A filter with more names, globs and rules passes over at least as much. -/
theorem ignores_mono {f f' : IgnoreFilter} (hroot : f'.root = f.root)
    (hnames : ∀ name ∈ f.excludedNames, name ∈ f'.excludedNames) (hglobs : f.globs ⊆ f'.globs)
    (hrules : f.gitignore = none ∨ f'.gitignore = f.gitignore) {p : Path} {isDirectory : Bool}
    (h : f.ignores p isDirectory = true) : f'.ignores p isDirectory = true := by
  simp only [ignores, Bool.or_eq_true] at h ⊢
  rcases h with (hname | hglob) | hrule
  · left; left
    simp only [excludes, Bool.and_eq_true, Option.any_eq_true, List.contains_iff_mem] at hname ⊢
    obtain ⟨hdirectory, name, hlast, hmem⟩ := hname
    exact ⟨hdirectory, name, hlast, hnames _ hmem⟩
  · left; right
    rw [List.any_eq_true] at hglob ⊢
    obtain ⟨glob, hmem, hmatches⟩ := hglob
    exact ⟨glob, hglobs hmem, hroot ▸ hmatches⟩
  · right
    rcases hrules with hnone | hsame
    · simp [hnone] at hrule
    · rw [hsame]
      exact hrule

/-- There is a filter iff all patterns are globs and the ignore file can be used, if it is asked
for. -/
theorem ofConfig_eq_ok {fs : FileSystem} {c : ScanConfig} {root : Location} {f : IgnoreFilter} :
    ofConfig fs c root = .ok f ↔ ∃ globs gitignore,
      readGlobs c.ignorePatterns = .ok globs ∧
        (if c.gitignore then readGitignore fs root else .ok none) = .ok gitignore ∧
          f = ⟨root, c.excludedNames, globs, gitignore⟩ := by
  rw [ofConfig, bind_eq_ok]
  cases hc : c.gitignore with
  | false =>
    simp only [Bool.false_eq_true, if_false, bind_eq_ok, pure, Except.pure, Except.ok.injEq]
    grind
  | true =>
    simp only [if_true, bind_eq_ok, pure, Except.pure, Except.ok.injEq]
    grind

end IgnoreFilter

end CodeAtlas
