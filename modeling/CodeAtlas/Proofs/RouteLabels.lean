import Mathlib.Data.List.TakeWhile
import CodeAtlas.Proofs.Remarks

/-!
# What the label of a route tells

The label of a call is its verb, and behind a blank the path, if there is an argument. The path is
the content of a literal between its delimiters, or the text of any other argument. Verb and path
can be read off the label.

- `Encloses`: a text between two delimiters, of which `stripDelimiters` gives the inside.
- `RouteVerb.withPath`, `readLabel?`: labels, and how they are read.
- `Node.Renders`: the path that stands for an argument.
- `Node.Routes`: the verb and the path of a call.
- `routeLabel?_lossless`: a label tells the verb and the path of its call, and no more.
-/

namespace CodeAtlas

/-! ## Delimiters -/

/-- A text of two or more characters that begins and ends with `q`. -/
def Encloses (q : Char) (text : List Char) : Prop :=
  2 ≤ text.length ∧ text.head? = some q ∧ text.getLast? = some q

/-- An enclosed text is what stands inside, between the two delimiters. -/
theorem encloses_iff {q : Char} {text : List Char} :
    Encloses q text ↔ ∃ inside, text = q :: (inside ++ [q]) := by
  constructor
  · rintro ⟨hlength, hhead, hlast⟩
    obtain ⟨rest, rfl⟩ := List.head?_eq_some_iff.1 hhead
    cases hrest : rest.getLast? with
    | none =>
      obtain rfl := List.getLast?_eq_none_iff.1 hrest
      simp at hlength
    | some last =>
      obtain ⟨inside, rfl⟩ := List.getLast?_eq_some_iff.1 hrest
      obtain rfl : last = q := by simpa [List.getLast?_cons] using hlast
      exact ⟨inside, rfl⟩
  · rintro ⟨inside, rfl⟩
    exact ⟨by simp, rfl, by simp [List.getLast?_cons]⟩

theorem stripDelimiters_enclosed {quotes : List Char} {q : Char} (h : q ∈ quotes)
    (inside : List Char) : stripDelimiters quotes (q :: (inside ++ [q])) = inside := by
  simp [stripDelimiters, h]

theorem stripDelimiters_of_not_encloses {quotes text : List Char}
    (h : ∀ q ∈ quotes, ¬Encloses q text) : stripDelimiters quotes text = text := by
  cases text with
  | nil => rfl
  | cons first rest =>
    rw [stripDelimiters]
    cases hlast : rest.getLast? with
    | none => rfl
    | some last =>
      obtain ⟨inside, rfl⟩ := List.getLast?_eq_some_iff.1 hlast
      refine if_neg fun hsame => ?_
      rw [Bool.and_eq_true, decide_eq_true_eq, List.contains_iff_mem] at hsame
      obtain ⟨rfl, hmem⟩ := hsame
      exact h first hmem (encloses_iff.2 ⟨inside, rfl⟩)

/-! ## Labels -/

namespace RouteVerb

/-- A verb, and behind a blank the path, if there is one. -/
def withPath (verb : RouteVerb) : Option (List Char) → List Char
  | none => verb.label
  | some path => verb.label ++ ' ' :: path

/-- Labels are methods in capital letters. -/
theorem label_eq_upper (verb : RouteVerb) : verb.label = verb.method.map Char.toUpper := by
  cases verb <;> decide

theorem method_injective : Function.Injective method := by
  intro a b h
  cases a <;> cases b <;> first | rfl | exact absurd h (by decide)

/-- The verb of a method is the one with this method. -/
theorem ofMethod?_eq_some {name : List Char} {verb : RouteVerb} :
    ofMethod? name = some verb ↔ verb.method = name := by
  constructor
  · intro h
    simpa using List.find?_some h
  · rintro rfl
    cases verb <;> decide

/-- No verb has a blank in it. -/
theorem blank_not_mem_label (verb : RouteVerb) : ∀ c ∈ verb.label, (c != ' ') = true := by
  have hall : verb.label.all (· != ' ') = true := by cases verb <;> decide
  exact List.all_eq_true.1 hall

def ofLabel? (label : List Char) : Option RouteVerb := all.find? (·.label == label)

/-- The verb is read back from its label. -/
theorem ofLabel?_label (verb : RouteVerb) : ofLabel? verb.label = some verb := by
  cases verb <;> decide

theorem withPath_eq_label_iff (verb : RouteVerb) (path : Option (List Char)) :
    verb.withPath path = verb.label ↔ path = none := by
  cases path <;> simp [withPath]

end RouteVerb

/-- The verb in front of the first blank of a label, and the path behind it. -/
def readLabel? (label : List Char) : Option (RouteVerb × Option (List Char)) :=
  (RouteVerb.ofLabel? (label.takeWhile (· != ' '))).map fun verb =>
    (verb, (label.dropWhile (· != ' ')).tail?)

/-- Both the verb and the path are read back from a label. -/
theorem readLabel?_withPath (verb : RouteVerb) (path : Option (List Char)) :
    readLabel? (verb.withPath path) = some (verb, path) := by
  have hverb := verb.blank_not_mem_label
  cases path with
  | none =>
    rw [RouteVerb.withPath, readLabel?, List.takeWhile_eq_self_iff.2 hverb,
      List.dropWhile_eq_nil_iff.2 hverb, verb.ofLabel?_label]
    rfl
  | some path =>
    rw [RouteVerb.withPath, readLabel?, List.takeWhile_append_of_pos hverb,
      List.dropWhile_append_of_pos hverb]
    simp [verb.ofLabel?_label]

/-- Labels are the same only for the same verb and the same path. -/
theorem RouteVerb.withPath_inj {verb verb' : RouteVerb} {path path' : Option (List Char)} :
    verb.withPath path = verb'.withPath path' ↔ verb = verb' ∧ path = path' := by
  constructor
  · intro h
    have hread := congrArg readLabel? h
    rw [readLabel?_withPath, readLabel?_withPath] at hread
    exact Prod.mk.inj (Option.some.inj hread)
  · rintro ⟨rfl, rfl⟩
    rfl

namespace Node

/-! ## Paths -/

/-- The delimiters that count: both quotes for a string, and the backtick for a template without
substitutions. -/
def IsDelimiter (argument : Node) (q : Char) : Prop :=
  (argument.kind = .string ∧ (q = '\'' ∨ q = '"')) ∨
  (argument.kind = .templateString ∧ q = '`' ∧
    ∀ n ∈ argument.namedChildren, n.kind ≠ .templateSubstitution)

inductive Renders (src : Source) (argument : Node) : List Char → Prop where
  /-- A literal without its delimiters. -/
  | inside {q : Char} {path : List Char} : argument.IsDelimiter q →
      q :: (path ++ [q]) = argument.text src → Renders src argument path
  /-- The text of any other argument, and of a literal that is cut short. -/
  | whole : (∀ q, argument.IsDelimiter q → ¬Encloses q (argument.text src)) →
      Renders src argument (argument.text src)

/-- The first of the arguments, remarks in the common form not counted. -/
def IsFirstArgument (list argument : Node) : Prop :=
  ∃ before behind, list.namedChildren = before ++ argument :: behind ∧
    (∀ n ∈ before, n.kind = .comment) ∧ argument.kind ≠ .comment

/-- `HasPath src call path`: the path that stands for the first argument of a call; there is none
if there is no argument. -/
inductive HasPath (src : Source) (call : Node) : Option (List Char) → Prop where
  | none : (∀ list, call.child? .arguments = some list →
      ∀ n ∈ list.namedChildren, n.kind = .comment) → HasPath src call none
  | some {list argument : Node} {path : List Char} : call.child? .arguments = some list →
      list.IsFirstArgument argument → argument.Renders src path → HasPath src call (some path)

/-- A call of the method of a verb with a path. -/
structure Routes (src : Source) (call : Node) (verb : RouteVerb) (path : Option (List Char)) :
    Prop where
  verb : ∃ callee property, call.child? .function = some callee ∧
    callee.child? .property = some property ∧ property.text src = verb.method
  path : call.HasPath src path

section Paths

variable {src : Source} {call argument : Node}

/-- An argument renders one path at most. -/
theorem Renders.unique {path path' : List Char} (h : argument.Renders src path)
    (h' : argument.Renders src path') : path = path' := by
  cases h with
  | inside hq htext =>
    cases h' with
    | inside hq' htext' =>
      have hsame := List.cons.inj (htext.trans htext'.symm)
      exact (List.append_inj' hsame.2 rfl).1
    | whole hnone => exact absurd (encloses_iff.2 ⟨_, htext.symm⟩) (hnone _ hq)
  | whole hnone =>
    cases h' with
    | inside hq htext => exact absurd (encloses_iff.2 ⟨_, htext.symm⟩) (hnone _ hq)
    | whole => rfl

/-- The text of an argument without its delimiters renders it. -/
theorem renders_stripDelimiters {quotes : List Char}
    (h : ∀ q, argument.IsDelimiter q ↔ q ∈ quotes) :
    argument.Renders src (stripDelimiters quotes (argument.text src)) := by
  by_cases henclosed : ∃ q ∈ quotes, Encloses q (argument.text src)
  · obtain ⟨q, hq, hencloses⟩ := henclosed
    obtain ⟨inside, htext⟩ := encloses_iff.1 hencloses
    rw [htext, stripDelimiters_enclosed hq]
    exact .inside ((h q).2 hq) htext.symm
  · have hnone : ∀ q ∈ quotes, ¬Encloses q (argument.text src) :=
      fun q hq hencloses => henclosed ⟨q, hq, hencloses⟩
    rw [stripDelimiters_of_not_encloses hnone]
    exact .whole fun q hq => hnone q ((h q).1 hq)

/-- Every argument renders its label. -/
theorem renders_argumentLabel (src : Source) (argument : Node) :
    argument.Renders src (argument.argumentLabel src) := by
  have hsubstitution : argument.hasSubstitution = false ↔
      ∀ n ∈ argument.namedChildren, n.kind ≠ .templateSubstitution := by
    simp [hasSubstitution]
  have hwhole (h : ∀ q, ¬argument.IsDelimiter q) : argument.Renders src (argument.text src) :=
    .whole fun q hq => absurd hq (h q)
  rw [argumentLabel]
  split
  · next hkind => exact renders_stripDelimiters fun q => by simp [IsDelimiter, hkind]
  · next hkind =>
    split
    · next hsome =>
      refine hwhole fun q hq => ?_
      obtain ⟨hstring, -⟩ | ⟨-, -, hnone⟩ := hq
      · simp [hkind] at hstring
      · simp [hsubstitution.2 hnone] at hsome
    · next hsome =>
      have hnone := hsubstitution.1 (by simpa using hsome)
      exact renders_stripDelimiters fun q => by simpa [IsDelimiter, hkind] using fun _ => hnone
  · next hstring htemplate =>
    refine hwhole fun q hq => ?_
    obtain ⟨hkind, -⟩ | ⟨hkind, -⟩ := hq
    · exact hstring hkind
    · exact htemplate hkind

theorem isComment_iff (n : Node) : n.kind.isComment = true ↔ n.kind = .comment := by
  cases n.kind <;> simp [Kind.isComment]

/-- There is no first argument iff all that stands there are comments. -/
theorem firstArgument?_eq_none {list : Node} :
    list.firstArgument? = none ↔ ∀ n ∈ list.namedChildren, n.kind = .comment := by
  simp [firstArgument?, isComment_iff]

/-- The first argument is the first child that is no comment. -/
theorem firstArgument?_eq_some {list : Node} :
    list.firstArgument? = some argument ↔ list.IsFirstArgument argument := by
  rw [firstArgument?, List.find?_eq_some_iff_append, IsFirstArgument]
  simp [← isComment_iff, and_comm, and_left_comm]

/-- The path that is found is that of the call. -/
theorem hasPath_routePath? (src : Source) (call : Node) :
    call.HasPath src (call.routePath? src) := by
  rw [routePath?]
  cases hlist : call.child? .arguments with
  | none =>
    refine .none fun list hsome => ?_
    rw [hlist] at hsome
    cases hsome
  | some list =>
    rw [Option.bind_some]
    cases hfirst : list.firstArgument? with
    | none =>
      refine .none fun list' hsome => ?_
      obtain rfl := Option.some.inj (hlist.symm.trans hsome)
      exact firstArgument?_eq_none.1 hfirst
    | some argument =>
      exact .some hlist (firstArgument?_eq_some.1 hfirst) (renders_argumentLabel src argument)

/-- A call has one path at most. -/
theorem HasPath.unique {path path' : Option (List Char)} (h : call.HasPath src path)
    (h' : call.HasPath src path') : path = path' := by
  cases h with
  | none hnone =>
    cases h' with
    | none => rfl
    | some hlist hfirst _ =>
      rw [← firstArgument?_eq_some, firstArgument?_eq_none.2 (hnone _ hlist)] at hfirst
      cases hfirst
  | some hlist hfirst hrenders =>
    rw [← firstArgument?_eq_some] at hfirst
    cases h' with
    | none hnone =>
      rw [firstArgument?_eq_none.2 (hnone _ hlist)] at hfirst
      cases hfirst
    | some hlist' hfirst' hrenders' =>
      obtain rfl := Option.some.inj (hlist.symm.trans hlist')
      rw [← firstArgument?_eq_some, hfirst] at hfirst'
      obtain rfl := Option.some.inj hfirst'
      rw [hrenders.unique hrenders']

/-- A call has no path iff there is nothing but comments among its arguments. -/
theorem hasPath_none_iff (src : Source) (call : Node) : call.HasPath src none ↔
    ∀ list, call.child? .arguments = some list → ∀ n ∈ list.namedChildren, n.kind = .comment := by
  constructor
  · rintro ⟨hnone⟩
    exact hnone
  · exact .none

/-! ## The label of a call -/

theorem routeLabel?_eq_map (src : Source) (call : Node) :
    call.routeLabel? src = (call.routeVerb? src).map (·.withPath (call.routePath? src)) := by
  rw [routeLabel?]
  cases call.routePath? src <;> rfl

/-- The callee of a call with a verb is a member with the name of its method. -/
theorem exists_property_of_routeVerb? {verb : RouteVerb} (h : call.routeVerb? src = some verb) :
    ∃ callee property, call.child? .function = some callee ∧
      callee.child? .property = some property ∧ property.text src = verb.method := by
  cases hchain : call.child? .optionalChain with
  | some mark =>
    rw [routeVerb?_of_optionalChain hchain] at h
    cases h
  | none =>
    rw [routeVerb?_eq_bind hchain, Option.bind_eq_some_iff] at h
    obtain ⟨callee, hcallee, hverb⟩ := h
    rw [calleeVerb?] at hverb
    split at hverb
    · next object property _ _ hproperty =>
      split at hverb
      · exact ⟨callee, property, hcallee, hproperty, (RouteVerb.ofMethod?_eq_some.1 hverb).symm⟩
      · cases hverb
    · cases hverb

/-- A call with a label routes the verb and the path of its label. -/
theorem routes_of_routeLabel? {label : List Char} (h : call.routeLabel? src = some label) :
    ∃ verb path, call.Routes src verb path ∧ label = verb.withPath path := by
  rw [routeLabel?_eq_map, Option.map_eq_some_iff] at h
  obtain ⟨verb, hverb, rfl⟩ := h
  exact ⟨verb, _, ⟨exists_property_of_routeVerb? hverb, hasPath_routePath? src call⟩, rfl⟩

/-- A call routes one verb and one path at most. -/
theorem Routes.unique {verb verb' : RouteVerb} {path path' : Option (List Char)}
    (h : call.Routes src verb path) (h' : call.Routes src verb' path') :
    verb = verb' ∧ path = path' := by
  obtain ⟨callee, property, hcallee, hproperty, htext⟩ := h.verb
  obtain ⟨callee', property', hcallee', hproperty', htext'⟩ := h'.verb
  obtain rfl := Option.some.inj (hcallee.symm.trans hcallee')
  obtain rfl := Option.some.inj (hproperty.symm.trans hproperty')
  exact ⟨RouteVerb.method_injective (htext.symm.trans htext'), h.path.unique h'.path⟩

end Paths

end Node

/-- The label of a route is the verb of the call in capitals, and behind a blank its path, unless
there is no argument. Both can be read off the label, so calls with one label agree in verb and
path. -/
theorem routeLabel?_lossless {src : Source} {call : Node} {label : List Char}
    (h : call.routeLabel? src = some label) :
    ∃ verb path, call.Routes src verb path ∧ verb.label = verb.method.map Char.toUpper ∧
      label = verb.label ++ (path.elim [] fun path => ' ' :: path) ∧
      (label = verb.label ↔ ∀ list, call.child? .arguments = some list →
        ∀ n ∈ list.namedChildren, n.kind = .comment) ∧
      readLabel? label = some (verb, path) ∧
      ∀ src' call' label' verb' path', Node.routeLabel? src' call' = some label' →
        call'.Routes src' verb' path' → (label' = label ↔ verb' = verb ∧ path' = path) := by
  obtain ⟨verb, path, hroutes, rfl⟩ := Node.routes_of_routeLabel? h
  refine ⟨verb, path, hroutes, verb.label_eq_upper, ?_, ?_, readLabel?_withPath verb path, ?_⟩
  · cases path <;> simp [RouteVerb.withPath]
  · rw [verb.withPath_eq_label_iff, ← Node.hasPath_none_iff src]
    exact ⟨fun hnone => hnone ▸ hroutes.path, fun hnone => hroutes.path.unique hnone⟩
  · intro src' call' label' verb' path' h' hroutes'
    obtain ⟨verb'', path'', hroutes'', rfl⟩ := Node.routes_of_routeLabel? h'
    obtain ⟨rfl, rfl⟩ := hroutes''.unique hroutes'
    exact RouteVerb.withPath_inj

def stringArgument (start stop : Position) : List Node :=
  [leafNode .string start stop, leafNode (.token ")") stop (stop + 1)]

/-- An empty path is not the same as none, and a path may hold blanks and quotes. -/
theorem routeLabel?_lossless_empty :
    ((getCall 11 (stringArgument 8 10)).routeLabel? (.ofString "app.get('')") = some "GET ".toList ∧
      (getCall 11 (stringArgument 8 10)).Routes (.ofString "app.get('')") .get (some [])) ∧
    ((getCall 9 [leafNode (.token ")") 8 9]).routeLabel? (.ofString "app.get()")
        = some "GET".toList ∧
      (getCall 9 [leafNode (.token ")") 8 9]).Routes (.ofString "app.get()") .get none) ∧
    ((getCall 15 (stringArgument 8 14)).routeLabel? (.ofString "app.get('é \"x')")
        = some "GET é \"x".toList ∧
      (getCall 15 (stringArgument 8 14)).Routes (.ofString "app.get('é \"x')") .get
        (some "é \"x".toList)) := by
  -- What is read off a label is what the call has.
  have hread : ∀ {src : Source} {call : Node} {label : List Char} {path : Option (List Char)},
      call.routeLabel? src = some label → readLabel? label = some (.get, path) →
        call.routeLabel? src = some label ∧ call.Routes src .get path := by
    intro src call label path h hlabel
    obtain ⟨verb, path', hroutes, -, -, -, hpair, -⟩ := routeLabel?_lossless h
    obtain ⟨rfl, rfl⟩ := Prod.mk.inj (Option.some.inj (hpair.symm.trans hlabel))
    exact ⟨h, hroutes⟩
  exact ⟨hread (by decide) (by decide), hread (by decide) (by decide),
    hread (by decide) (by decide)⟩

end CodeAtlas
