import Mathlib.Data.List.Forall2
import Mathlib.Data.Option.Basic
import CodeAtlas.Outline.Extract
import CodeAtlas.Proofs.Traversal

/-!
# Comments and parentheses

Comments in front of the first argument of a call, and parentheses with comments around the value of
a variable, are passed over, as long as the comments are of the common form. A comment in HTML style
is taken for what is looked for.

- `Node.Same`: a node and the same node in another text.
- `Node.CallWith`: a call, and the same call with comments in front of its first argument.
- `Node.CallWith.routeLabel?_eq`: what the comments make of the label of a call.
- `Node.wrapped`: a node within parentheses.
- `Node.unwrapped?_wrapped`: what is found within them.
- `Node.DeclaratorWith`: a variable, and the same one with its value in parentheses.
- `labels_under_remarks`: labels of calls and symbols of variables, with and without comments.
-/

namespace CodeAtlas

def Kind.isRemark : Kind → Bool
  | .comment => true
  | .htmlComment => true
  | _ => false

section Lists

variable {α β : Type} {R : α → β → Prop} {as : List α} {bs : List β}

theorem getElem?_rel (h : List.Forall₂ R as bs) (i : Nat) : Option.Rel R as[i]? bs[i]? := by
  induction h generalizing i with
  | nil => exact .none
  | cons hab _ ih =>
    cases i with
    | zero => exact .some hab
    | succ i => exact ih i

/-- Lists that agree entry by entry agree in the first entry that passes a test. -/
theorem find?_rel (h : List.Forall₂ R as bs) {p : α → Bool} {q : β → Bool}
    (hpq : ∀ a b, R a b → p a = q b) : Option.Rel R (as.find? p) (bs.find? q) := by
  induction h with
  | nil => exact .none
  | @cons a b _ _ hab _ ih =>
    rw [List.find?_cons, List.find?_cons, hpq a b hab]
    cases q b with
    | true => exact .some hab
    | false => exact ih

theorem rel_cases {a : Option α} {b : Option β} (h : Option.Rel R a b) :
    (a = none ∧ b = none) ∨ ∃ x y, a = some x ∧ b = some y ∧ R x y := by
  cases h with
  | none => exact .inl ⟨rfl, rfl⟩
  | some hxy => exact .inr ⟨_, _, rfl, rfl, hxy⟩

end Lists

namespace Node

/-! ## The same node in another text -/

/-- `Same src src' n n'`: up to its position, the node `n` of one text is the node `n'` of another
one. -/
inductive Same (src src' : Source) : Node → Node → Prop where
  | mk {i j : NodeInfo} {cs ds : List Node} :
      i.kind = j.kind → i.roles = j.roles → (mk i cs).text src = (mk j ds).text src' →
      List.Forall₂ (Same src src') cs ds → Same src src' (.mk i cs) (.mk j ds)

namespace Same

variable {src src' : Source} {n n' : Node}

theorem kind (h : Same src src' n n') : n.kind = n'.kind := by
  cases h with
  | mk hkind => exact hkind

/-- The same node covers the same text. -/
theorem text (h : Same src src' n n') : n.text src = n'.text src' := by
  cases h with
  | mk _ _ htext => exact htext

/-- The children of the same node are the same, one by one. -/
theorem children (h : Same src src' n n') :
    List.Forall₂ (Same src src') n.children n'.children := by
  cases h with
  | mk _ _ _ hchildren => exact hchildren

theorem child? (h : Same src src' n n') (role : Field) :
    Option.Rel (Same src src') (n.child? role) (n'.child? role) := by
  have hroles : n.info.roles = n'.info.roles := by
    cases h with
    | mk _ hroles => exact hroles
  rw [Node.child?, Node.child?, hroles]
  cases n'.info.roles.lookup role with
  | none => exact .none
  | some i => exact getElem?_rel h.children i

theorem kinds {ns ns' : List Node} (h : List.Forall₂ (Same src src') ns ns') :
    ns.map Node.kind = ns'.map Node.kind := by
  induction h with
  | nil => rfl
  | cons hn _ ih => rw [List.map_cons, List.map_cons, hn.kind, ih]

theorem hasSubstitution (h : Same src src' n n') : n.hasSubstitution = n'.hasSubstitution := by
  -- Only the kinds of the children matter.
  have hkinds : ∀ m : Node, m.hasSubstitution
      = (m.children.map Node.kind).any fun k => k.isNamed && k == .templateSubstitution := by
    intro m
    rw [Node.hasSubstitution, namedChildren, List.any_filter, List.any_map]
    rfl
  rw [hkinds, hkinds, kinds h.children]

theorem argumentLabel (h : Same src src' n n') : n.argumentLabel src = n'.argumentLabel src' := by
  rw [Node.argumentLabel, Node.argumentLabel, h.kind, h.text, h.hasSubstitution]

mutual

def check (src src' : Source) : Node → Node → Bool
  | .mk i cs, .mk j ds =>
    i.kind == j.kind && i.roles == j.roles && (Node.mk i cs).text src == (Node.mk j ds).text src' &&
      checkAll src src' cs ds

def checkAll (src src' : Source) : List Node → List Node → Bool
  | [], [] => true
  | c :: cs, d :: ds => check src src' c d && checkAll src src' cs ds
  | _, _ => false

end

theorem checkAll_iff {cs ds : List Node}
    (h : ∀ c ∈ cs, ∀ d, check src src' c d = true ↔ Same src src' c d) :
    checkAll src src' cs ds = true ↔ List.Forall₂ (Same src src') cs ds := by
  induction cs generalizing ds with
  | nil => cases ds <;> simp [checkAll]
  | cons c cs ih =>
    obtain ⟨hc, hcs⟩ := List.forall_mem_cons.1 h
    cases ds with
    | nil => simp [checkAll]
    | cons d ds => rw [checkAll, Bool.and_eq_true, hc, ih hcs, List.forall₂_cons]

/-- The check decides whether a node is the same as another one. -/
theorem check_iff : check src src' n n' = true ↔ Same src src' n n' := by
  induction n using Node.induction generalizing n' with
  | mk i cs ih =>
    obtain ⟨j, ds⟩ := n'
    have hcs : checkAll src src' cs ds = true ↔ List.Forall₂ (Same src src') cs ds :=
      checkAll_iff fun c hc d => ih c hc
    simp only [check, Bool.and_eq_true, beq_iff_eq, hcs]
    constructor
    · rintro ⟨⟨⟨hkind, hroles⟩, htext⟩, hchildren⟩
      exact .mk hkind hroles htext hchildren
    · rintro ⟨hkind, hroles, htext, hchildren⟩
      exact ⟨⟨⟨hkind, hroles⟩, htext⟩, hchildren⟩

instance : Decidable (Same src src' n n') := decidable_of_iff _ check_iff

end Same

/-! ## Calls -/

/-- The arguments of a call, and the same arguments with remarks behind the opening parenthesis. -/
inductive ArgumentsWith (src src' : Source) (remarks : List Node) : Node → Node → Prop where
  | mk {bare commented : Node} (opening opening' : List Node) {rest rest' : List Node} :
      bare.children = opening ++ rest → commented.children = opening' ++ (remarks ++ rest') →
      (∀ n ∈ opening ++ opening', n.kind.isNamed = false) →
      List.Forall₂ (Same src src') rest rest' → ArgumentsWith src src' remarks bare commented

/-- A call, and the same call in another text, where there are remarks in front of the first
argument. -/
structure CallWith (src src' : Source) (remarks : List Node) (bare commented : Node) : Prop where
  function : Option.Rel (Same src src') (bare.child? .function) (commented.child? .function)
  optionalChain :
    Option.Rel (Same src src') (bare.child? .optionalChain) (commented.child? .optionalChain)
  arguments : ∃ list list', bare.child? .arguments = some list ∧
    commented.child? .arguments = some list' ∧ ArgumentsWith src src' remarks list list'

def htmlRemark? (nodes : List Node) : Option Node := nodes.find? (·.kind == .htmlComment)

def isArgument (n : Node) : Bool := n.kind.isNamed && !n.kind.isComment

/-- The first argument is the first child that is taken for one. -/
theorem firstArgument?_eq_find? (arguments : Node) :
    arguments.firstArgument? = arguments.children.find? isArgument := by
  rw [firstArgument?, namedChildren, List.find?_filter]
  exact congrArg (arguments.children.find? ·) (funext fun n => by simp [isArgument])

/-- Of fixed texts and remarks only a comment in HTML style is taken for an argument. -/
theorem isArgument_of_isRemark {n : Node} (h : n.kind.isNamed = true → n.kind.isRemark = true) :
    n.isArgument = (n.kind == .htmlComment) := by
  cases hkind : n.kind <;>
    simp_all [isArgument, Kind.isRemark, Kind.isNamed, Kind.isComment]

/-- Among remarks only one in HTML style can be taken for an argument. -/
theorem find?_isArgument_remarks {nodes : List Node}
    (h : ∀ n ∈ nodes, n.kind.isNamed = true → n.kind.isRemark = true) :
    nodes.find? isArgument = htmlRemark? nodes := by
  induction nodes with
  | nil => rfl
  | cons n rest ih =>
    obtain ⟨hn, hrest⟩ := List.forall_mem_cons.1 h
    rw [htmlRemark?, List.find?_cons, List.find?_cons, isArgument_of_isRemark hn, ih hrest,
      htmlRemark?]

theorem kind_of_htmlRemark? {nodes : List Node} {r : Node} (h : htmlRemark? nodes = some r) :
    r.kind = .htmlComment := by
  simpa using List.find?_some h

theorem Same.isArgument {src src' : Source} {n n' : Node} (h : Same src src' n n') :
    n.isArgument = n'.isArgument := by
  rw [Node.isArgument, Node.isArgument, h.kind]

def calleeVerb? (src : Source) (callee : Node) : Option RouteVerb :=
  match callee.child? .optionalChain, callee.child? .object, callee.child? .property with
  | none, some object, some property =>
    if callee.kind == .memberExpression && object.kind == .identifier
        && property.kind == .propertyIdentifier && routeReceivers.contains (object.text src) then
      RouteVerb.ofMethod? (property.text src)
    else none
  | _, _, _ => none

theorem routeVerb?_of_optionalChain {src : Source} {call mark : Node}
    (h : call.child? .optionalChain = some mark) : call.routeVerb? src = none := by
  rw [routeVerb?, h]

/-- Without the mark of an optional chain the verb of a call is that of its callee. -/
theorem routeVerb?_eq_bind {src : Source} {call : Node} (h : call.child? .optionalChain = none) :
    call.routeVerb? src = (call.child? .function).bind (calleeVerb? src) := by
  rw [routeVerb?, h]
  cases call.child? .function with
  | none => rfl
  | some callee => rfl

theorem Same.calleeVerb? {src src' : Source} {n n' : Node} (h : Same src src' n n') :
    n.calleeVerb? src = n'.calleeVerb? src' := by
  rw [Node.calleeVerb?, Node.calleeVerb?]
  obtain ⟨hn, hn'⟩ | ⟨x, y, hn, hn', -⟩ := rel_cases (h.child? .optionalChain)
  · obtain ⟨ho, ho'⟩ | ⟨x, y, ho, ho', hobject⟩ := rel_cases (h.child? .object)
    · simp only [hn, hn', ho, ho']
    · obtain ⟨hp, hp'⟩ | ⟨x, y, hp, hp', hproperty⟩ := rel_cases (h.child? .property)
      · simp only [hn, hn', ho, ho', hp, hp']
      · simp only [hn, hn', ho, ho', hp, hp', h.kind, hobject.kind, hobject.text, hproperty.kind,
          hproperty.text]
  · rw [hn, hn']

section Calls

variable {src src' : Source} {remarks : List Node} {bare commented : Node}

/-- Behind an opening parenthesis an argument is looked for among what follows it. -/
theorem firstArgument?_of_opening {arguments : Node} {opening rest : List Node}
    (hchildren : arguments.children = opening ++ rest)
    (hopening : ∀ n ∈ opening, n.kind.isNamed = false) :
    arguments.firstArgument? = rest.find? isArgument := by
  have hnone : opening.find? isArgument = none :=
    List.find?_eq_none.2 fun n hn => by simp [isArgument, hopening n hn]
  rw [firstArgument?_eq_find?, hchildren, List.find?_append, hnone, Option.none_or]

/-- A comment in HTML style is taken for the first argument; other comments are passed over. -/
theorem ArgumentsWith.label_eq (h : ArgumentsWith src src' remarks bare commented)
    (hremarks : ∀ r ∈ remarks, r.kind.isRemark = true) :
    commented.firstArgument?.map (argumentLabel src')
      = ((htmlRemark? remarks).map (text src')).or
        (bare.firstArgument?.map (argumentLabel src)) := by
  obtain ⟨_, _, hbare, hcommented, hopening, hrest⟩ := h
  obtain ⟨hopen, hopen'⟩ := List.forall_mem_append.1 hopening
  rw [firstArgument?_of_opening hbare hopen, firstArgument?_of_opening hcommented hopen',
    List.find?_append, find?_isArgument_remarks fun r hr _ => hremarks r hr]
  cases hhtml : htmlRemark? remarks with
  | some r =>
    have hkind : r.kind = .htmlComment := kind_of_htmlRemark? hhtml
    simp [argumentLabel, hkind]
  | none =>
    rw [Option.none_or, Option.map_none, Option.none_or]
    obtain ⟨hn, hn'⟩ | ⟨x, y, hn, hn', hsame⟩ :=
      rel_cases (find?_rel hrest fun _ _ => Same.isArgument)
    · rw [hn, hn', Option.map_none, Option.map_none]
    · rw [hn, hn', Option.map_some, Option.map_some, hsame.argumentLabel]

/-- With remarks in front of the arguments the path is the first remark in HTML style, if there is
one, and else what it was. -/
theorem CallWith.routePath?_eq (h : CallWith src src' remarks bare commented)
    (hremarks : ∀ r ∈ remarks, r.kind.isRemark = true) :
    commented.routePath? src'
      = ((htmlRemark? remarks).map (text src')).or (bare.routePath? src) := by
  obtain ⟨arguments, arguments', hbare, hcommented, hwith⟩ := h.arguments
  rw [routePath?, routePath?, hbare, hcommented, Option.bind_some, Option.bind_some,
    hwith.label_eq hremarks]

/-- The verb does not depend on the arguments. -/
theorem CallWith.routeVerb?_eq (h : CallWith src src' remarks bare commented) :
    commented.routeVerb? src' = bare.routeVerb? src := by
  obtain ⟨hbare, hcommented⟩ | ⟨mark, mark', hbare, hcommented, -⟩ := rel_cases h.optionalChain
  · rw [routeVerb?_eq_bind hbare, routeVerb?_eq_bind hcommented]
    obtain ⟨hf, hf'⟩ | ⟨callee, callee', hf, hf', hcallee⟩ := rel_cases h.function
    · rw [hf, hf']
      rfl
    · rw [hf, hf', Option.bind_some, Option.bind_some, hcallee.calleeVerb?]
  · rw [routeVerb?_of_optionalChain hbare, routeVerb?_of_optionalChain hcommented]

/-- What comments in front of the first argument make of the label of a call. -/
theorem CallWith.routeLabel?_eq (h : CallWith src src' remarks bare commented)
    (hremarks : ∀ r ∈ remarks, r.kind.isRemark = true) :
    commented.routeLabel? src' = (htmlRemark? remarks).elim (bare.routeLabel? src) fun r =>
      (bare.routeVerb? src).map fun verb => verb.label ++ ' ' :: r.text src' := by
  rw [routeLabel?, routeLabel?, h.routeVerb?_eq, h.routePath?_eq hremarks]
  cases htmlRemark? remarks with
  | some r => rfl
  | none => rw [Option.map_none, Option.none_or, Option.elim_none]

/-- Where nothing but remarks stands in the parentheses, the label is the verb alone, unless there
is a comment in HTML style. -/
theorem routeLabel?_of_remarks {call list : Node} (h : call.child? .arguments = some list)
    (hremarks : ∀ n ∈ list.children, n.kind.isNamed = true → n.kind.isRemark = true) :
    call.routeLabel? src = (call.routeVerb? src).map fun verb =>
      (htmlRemark? list.children).elim verb.label fun r => verb.label ++ ' ' :: r.text src := by
  rw [routeLabel?, routePath?, h, Option.bind_some, firstArgument?_eq_find?,
    find?_isArgument_remarks hremarks]
  cases hhtml : htmlRemark? list.children with
  | none => rfl
  | some r =>
    have hkind : r.kind = .htmlComment := kind_of_htmlRemark? hhtml
    simp [argumentLabel, hkind]

end Calls

/-! ## Parentheses -/

/-- A pair of parentheses: what is known of the node, and what stands in it before and behind the
inner node. -/
structure Layer where
  info : NodeInfo
  before : List Node
  behind : List Node

namespace Layer

def around (l : Layer) (inner : Node) : Node := .mk l.info (l.before ++ inner :: l.behind)

/-- Beside the inner node there are only fixed texts and remarks in the parentheses. -/
structure IsParenthesis (l : Layer) : Prop where
  kind : l.info.kind = .parenthesizedExpression
  before : ∀ n ∈ l.before, n.kind.isNamed = true → n.kind.isRemark = true
  behind : ∀ n ∈ l.behind, n.kind.isNamed = true → n.kind.isRemark = true

end Layer

/-- A node within several pairs of parentheses, the outermost pair first. -/
def wrapped (layers : List Layer) (inner : Node) : Node := layers.foldr Layer.around inner

/-- The remarks in front of the inner node, from the outermost pair of parentheses on. -/
def remarksBefore (layers : List Layer) : List Node := layers.flatMap Layer.before

/-- What is unwrapped first is the first node that is taken for an argument. -/
theorem firstUnwrapped?_eq (nodes : List Node) :
    firstUnwrapped? nodes = (nodes.find? isArgument).bind unwrapped? := by
  induction nodes with
  | nil => rw [firstUnwrapped?, List.find?_nil, Option.bind_none]
  | cons n rest ih =>
    rw [firstUnwrapped?, List.find?_cons, ih, ← isArgument]
    cases n.isArgument <;> rfl

theorem unwrapped?_of_ne {n : Node} (h : n.kind ≠ .parenthesizedExpression) :
    unwrapped? n = some n := by
  obtain ⟨info, children⟩ := n
  exact if_neg h

/-- Within a pair of parentheses the first comment in HTML style before the inner node is found, or
else what is within the inner node. -/
theorem unwrapped?_around {l : Layer} (h : l.IsParenthesis) {inner : Node}
    (hinner : inner.isArgument = true) :
    unwrapped? (l.around inner) = (htmlRemark? l.before).or (unwrapped? inner) := by
  rw [Layer.around, unwrapped?, if_pos h.kind, firstUnwrapped?_eq, List.find?_append,
    find?_isArgument_remarks h.before, List.find?_cons, hinner]
  cases hhtml : htmlRemark? l.before with
  | none => rfl
  | some r =>
    rw [Option.some_or, Option.some_or, Option.bind_some, unwrapped?_of_ne]
    simp [kind_of_htmlRemark? hhtml]

/-- Parentheses do not change whether a node is taken for an argument. -/
theorem isArgument_wrapped {layers : List Layer} (h : ∀ l ∈ layers, l.IsParenthesis) {inner : Node}
    (hinner : inner.isArgument = true) : (wrapped layers inner).isArgument = true := by
  cases layers with
  | nil => exact hinner
  | cons l rest =>
    have hkind : (wrapped (l :: rest) inner).kind = .parenthesizedExpression :=
      (h l List.mem_cons_self).kind
    simp [isArgument, hkind, Kind.isNamed, Kind.isComment]

/-- Within parentheses the first comment in HTML style before the inner node is found, or else what
is within the inner node. -/
theorem unwrapped?_wrapped {layers : List Layer} (h : ∀ l ∈ layers, l.IsParenthesis) {inner : Node}
    (hinner : inner.isArgument = true) :
    unwrapped? (wrapped layers inner)
      = (htmlRemark? (remarksBefore layers)).or (unwrapped? inner) := by
  induction layers with
  | nil => rfl
  | cons l rest ih =>
    obtain ⟨hl, hrest⟩ := List.forall_mem_cons.1 h
    have hhtml : htmlRemark? (remarksBefore (l :: rest))
        = (htmlRemark? l.before).or (htmlRemark? (remarksBefore rest)) := List.find?_append
    rw [wrapped, List.foldr_cons, ← wrapped, unwrapped?_around hl (isArgument_wrapped hrest hinner),
      ih hrest, hhtml, Option.or_assoc]

/-- Parentheses stand for the first node in them that is taken for an argument. -/
theorem unwrapped?_eq_bind {n : Node} (h : n.kind = .parenthesizedExpression) :
    unwrapped? n = (n.children.find? isArgument).bind unwrapped? := by
  obtain ⟨info, children⟩ := n
  exact (if_pos h).trans (firstUnwrapped?_eq children)

/-- Within the same parentheses the same node is found. -/
theorem Same.unwrapped? {src src' : Source} {n n' : Node} (h : Same src src' n n') :
    Option.Rel (Same src src') n.unwrapped? n'.unwrapped? := by
  induction n using Node.induction generalizing n' with
  | mk info children ih =>
    by_cases hkind : (Node.mk info children).kind = .parenthesizedExpression
    · rw [unwrapped?_eq_bind hkind, unwrapped?_eq_bind (h.kind ▸ hkind)]
      obtain ⟨hx, hy⟩ | ⟨x, y, hx, hy, hsame⟩ :=
        rel_cases (find?_rel h.children fun _ _ => Same.isArgument)
      · rw [hx, hy]
        exact .none
      · rw [hx, hy]
        exact ih x (List.mem_of_find?_eq_some hx) hsame
    · rw [unwrapped?_of_ne hkind, unwrapped?_of_ne (h.kind ▸ hkind)]
      exact .some h

/-! ## Variables -/

/-- A declarator of a variable, and the same one in another text, where the value stands in
parentheses. -/
structure DeclaratorWith (src src' : Source) (layers : List Layer) (bare wrapped : Node) :
    Prop where
  kind : bare.kind = .variableDeclarator
  kind' : wrapped.kind = .variableDeclarator
  name : Option.Rel (Same src src') (bare.child? .name) (wrapped.child? .name)
  value : ∃ value inner, bare.child? .value = some value ∧
    wrapped.child? .value = some (inner.wrapped layers) ∧
    value.isArgument = true ∧ Same src src' value inner

theorem Same.isFunctionValue {src src' : Source} {n n' : Node} (h : Same src src' n n') :
    n.isFunctionValue = n'.isFunctionValue := by
  rw [Node.isFunctionValue, Node.isFunctionValue, h.kind]

/-- Only the name and the kind of what is within parentheses matter. -/
theorem functionVariable?_congr {src src' : Source} {n n' : Node}
    (hname : Option.Rel (Same src src') (n.child? .name) (n'.child? .name))
    (hvalue : Option.Rel (Same src src') ((n.child? .value).bind unwrapped?)
      ((n'.child? .value).bind unwrapped?)) :
    n.functionVariable? src = n'.functionVariable? src' := by
  rw [functionVariable?, functionVariable?]
  obtain ⟨hn, hn'⟩ | ⟨binding, binding', hn, hn', hbinding⟩ := rel_cases hname
  · rw [hn, hn']
  · obtain ⟨hv, hv'⟩ | ⟨value, value', hv, hv', hsame⟩ := rel_cases hvalue
    · rw [hn, hn', hv, hv']
    · simp only [hn, hn', hv, hv', hbinding.kind, hbinding.text, hsame.isFunctionValue]

/-- A variable whose value is a remark in HTML style is bound to no function. -/
theorem functionVariable?_of_html {src : Source} {n value : Node}
    (hvalue : (n.child? .value).bind unwrapped? = some value) (hkind : value.kind = .htmlComment) :
    n.functionVariable? src = none := by
  rw [functionVariable?, hvalue]
  cases n.child? .name with
  | none => rfl
  | some binding => simp [isFunctionValue, hkind]

/-- With a value in parentheses a variable is bound to a function as before, unless a remark in HTML
style stands in front of the value. -/
theorem DeclaratorWith.functionVariable?_eq {src src' : Source} {layers : List Layer}
    {bare wrapped : Node} (h : DeclaratorWith src src' layers bare wrapped)
    (hlayers : ∀ l ∈ layers, l.IsParenthesis) :
    wrapped.functionVariable? src'
      = (htmlRemark? (remarksBefore layers)).elim (bare.functionVariable? src) fun _ => none := by
  obtain ⟨value, inner, hvalue, hvalue', hargument, hsame⟩ := h.value
  have hfound : (wrapped.child? .value).bind Node.unwrapped?
      = (htmlRemark? (remarksBefore layers)).or inner.unwrapped? := by
    rw [hvalue', Option.bind_some, unwrapped?_wrapped hlayers (hsame.isArgument ▸ hargument)]
  cases hhtml : htmlRemark? (remarksBefore layers) with
  | some r =>
    rw [hhtml, Option.some_or] at hfound
    exact functionVariable?_of_html hfound (kind_of_htmlRemark? hhtml)
  | none =>
    rw [hhtml, Option.none_or] at hfound
    refine (functionVariable?_congr h.name ?_).symm
    rw [hfound, hvalue, Option.bind_some]
    exact hsame.unwrapped?

end Node

/-- What remarks and parentheses do to labels and symbols. Comments of the common form change
nothing. A comment in HTML style is taken for the argument of a call, or for the value of a
variable. -/
theorem labels_under_remarks (src src' : Source) :
    (∀ remarks bare commented, Node.CallWith src src' remarks bare commented →
      (∀ r ∈ remarks, r.kind.isRemark = true) →
      commented.routeLabel? src' = (Node.htmlRemark? remarks).elim (bare.routeLabel? src) fun r =>
        (bare.routeVerb? src).map fun verb => verb.label ++ ' ' :: r.text src') ∧
    (∀ call list : Node, call.child? .arguments = some list →
      (∀ n ∈ list.children, n.kind.isNamed = true → n.kind.isRemark = true) →
      call.routeLabel? src = (call.routeVerb? src).map fun verb =>
        (Node.htmlRemark? list.children).elim verb.label fun r =>
          verb.label ++ ' ' :: r.text src) ∧
    ∀ layers bare wrapped, Node.DeclaratorWith src src' layers bare wrapped →
      (∀ l ∈ layers, l.IsParenthesis) → bare.line src = wrapped.line src' →
      ∀ frames frames' lines, Cursor.symbol? src' lines ⟨wrapped, frames'⟩
        = (Node.htmlRemark? (Node.remarksBefore layers)).elim
            (Cursor.symbol? src lines ⟨bare, frames⟩) fun _ => none := by
  refine ⟨fun _ _ _ h hremarks => h.routeLabel?_eq hremarks,
    fun _ _ h hremarks => Node.routeLabel?_of_remarks h hremarks, ?_⟩
  intro layers bare wrapped h hlayers hline frames frames' lines
  have hdeclared : ∀ (s : Source) (n : Node) (fs : List Frame), n.kind = .variableDeclarator →
      Cursor.declared? s ⟨n, fs⟩ = (n.functionVariable? s).map (.function, ·) := by
    intro s n fs hkind
    simp only [Cursor.declared?, hkind]
  rw [Cursor.symbol?, Cursor.symbol?, hdeclared _ _ _ h.kind, hdeclared _ _ _ h.kind',
    h.functionVariable?_eq hlayers, hline]
  cases Node.htmlRemark? (Node.remarksBefore layers) with
  | none => rfl
  | some r => rfl

/-! ## A call and a variable with remarks -/

def appGet : Node :=
  branchNode .memberExpression 0 7 [(.object, 0), (.property, 2)] [
    leafNode .identifier 0 3, leafNode (.token ".") 3 4, leafNode .propertyIdentifier 4 7]

def argumentList (start stop : Position) (list : List Node) : Node :=
  branchNode .arguments start stop [] (leafNode (.token "(") start (start + 1) :: list)

def getCall (stop : Position) (list : List Node) : Node :=
  branchNode .callExpression 0 stop [(.function, 0), (.arguments, 1)] [
    appGet, argumentList 7 stop list]

def lastArgument (start : Position) : List Node :=
  [leafNode .identifier start (start + 1), leafNode (.token ")") (start + 1) (start + 2)]

def variableWith (stop : Position) (value : Node) : Node :=
  branchNode .variableDeclarator 4 stop [(.name, 0), (.value, 2)] [
    leafNode .identifier 4 5, leafNode (.token "=") 5 6, value]

def constantOne (start : Position) : Node :=
  branchNode .arrowFunction start (start + 5) [] [
    branchNode (.other "formal_parameters") start (start + 2) [] [
      leafNode (.token "(") start (start + 1), leafNode (.token ")") (start + 1) (start + 2)],
    leafNode (.token "=>") (start + 2) (start + 4),
    leafNode (.other "number") (start + 4) (start + 5)]

def remarkLayer (remark : Node) (stop : Position) : Node.Layer where
  info := ⟨.parenthesizedExpression, false, false, 6, stop, []⟩
  before := [leafNode (.token "(") 6 7, remark]
  behind := [leafNode (.token ")") (stop - 1) stop]

section

variable {src src' : Source} {start start' stop stop' : Position}

theorem callWith_getCall {remarks : List Node} (hcallee : Node.Same src src' appGet appGet)
    (hrest : List.Forall₂ (Node.Same src src') (lastArgument start) (lastArgument start')) :
    Node.CallWith src src' remarks (getCall stop (lastArgument start))
      (getCall stop' (remarks ++ lastArgument start')) where
  function := .some hcallee
  optionalChain := .none
  arguments := ⟨_, _, rfl, rfl,
    .mk [leafNode (.token "(") 7 8] [leafNode (.token "(") 7 8] rfl rfl (by decide) hrest⟩

theorem declaratorWith_variableWith {layers : List Node.Layer}
    (hname : Node.Same src src' (leafNode .identifier 4 5) (leafNode .identifier 4 5))
    (hvalue : Node.Same src src' (constantOne start) (constantOne start')) :
    Node.DeclaratorWith src src' layers (variableWith stop (constantOne start))
      (variableWith stop' ((constantOne start').wrapped layers)) where
  kind := rfl
  kind' := rfl
  name := .some hname
  value := ⟨_, _, rfl, rfl, rfl, hvalue⟩

theorem isParenthesis_remarkLayer {remark : Node} (h : remark.kind.isRemark = true) :
    (remarkLayer remark stop).IsParenthesis where
  kind := rfl
  before := List.forall_mem_cons.2 ⟨nofun, List.forall_mem_singleton.2 fun _ => h⟩
  behind := List.forall_mem_singleton.2 nofun

end

/-- A comment of the common form in front of an argument, alone, and in front of a function. -/
theorem labels_under_remarks_common :
    (getCall 15 ([leafNode .comment 8 13] ++ lastArgument 13)).routeLabel?
        (.ofString "app.get(/*c*/x)") = some "GET x".toList ∧
    (getCall 14 [leafNode .comment 8 13, leafNode (.token ")") 13 14]).routeLabel?
        (.ofString "app.get(/*c*/)") = some "GET".toList ∧
    Cursor.symbol? (.ofString "let f=(/*c*/()=>1)") true
        ⟨variableWith 18 ((constantOne 12).wrapped [remarkLayer (leafNode .comment 7 12) 18]), []⟩
      = some ⟨.function, "f", some 1⟩ := by
  refine ⟨?_, ?_, ?_⟩
  · have h : Node.CallWith (.ofString "app.get(x)") (.ofString "app.get(/*c*/x)")
        [leafNode .comment 8 13] (getCall 10 (lastArgument 8))
        (getCall 15 ([leafNode .comment 8 13] ++ lastArgument 13)) :=
      callWith_getCall (by decide) (by decide)
    exact ((labels_under_remarks _ _).1 _ _ _ h (by decide)).trans (by decide)
  · let alone : Source := .ofString "app.get(/*c*/)"
    exact ((labels_under_remarks alone alone).2.1 _ _ rfl (by decide)).trans (by decide)
  · have h : Node.DeclaratorWith (.ofString "let f=()=>1") (.ofString "let f=(/*c*/()=>1)")
        [remarkLayer (leafNode .comment 7 12) 18] (variableWith 11 (constantOne 6))
        (variableWith 18 ((constantOne 12).wrapped [remarkLayer (leafNode .comment 7 12) 18])) :=
      declaratorWith_variableWith (by decide) (by decide)
    have hlayer : (remarkLayer (leafNode .comment 7 12) 18).IsParenthesis :=
      isParenthesis_remarkLayer rfl
    have hsymbol := (labels_under_remarks _ _).2.2 _ _ _ h (List.forall_mem_singleton.2 hlayer)
      (by decide) [] [] true
    exact hsymbol.trans (by decide)

/-- A comment in HTML style becomes the path of a route, and hides a function. -/
theorem labels_under_remarks_html :
    (¬ ∀ src src' remarks bare commented, Node.CallWith src src' remarks bare commented →
      (∀ r ∈ remarks, r.kind.isRemark = true) →
      commented.routeLabel? src' = bare.routeLabel? src) ∧
    ¬ ∀ src src' layers bare wrapped, Node.DeclaratorWith src src' layers bare wrapped →
      (∀ l ∈ layers, l.IsParenthesis) → bare.line src = wrapped.line src' →
      ∀ frames lines, Cursor.symbol? src' lines ⟨wrapped, frames⟩
        = Cursor.symbol? src lines ⟨bare, frames⟩ := by
  constructor
  · intro hall
    have h : Node.CallWith (.ofString "app.get(x)") (.ofString "app.get(<!--\nx)")
        [leafNode .htmlComment 8 12] (getCall 10 (lastArgument 8))
        (getCall 15 ([leafNode .htmlComment 8 12] ++ lastArgument 13)) :=
      callWith_getCall (by decide) (by decide)
    exact absurd (hall _ _ _ _ _ h (by decide)) (by decide)
  · intro hall
    have h : Node.DeclaratorWith (.ofString "let f=()=>1") (.ofString "let f=(<!--\n()=>1)")
        [remarkLayer (leafNode .htmlComment 7 11) 18] (variableWith 11 (constantOne 6))
        (variableWith 18 ((constantOne 12).wrapped [remarkLayer (leafNode .htmlComment 7 11) 18])) :=
      declaratorWith_variableWith (by decide) (by decide)
    have hlayer : (remarkLayer (leafNode .htmlComment 7 11) 18).IsParenthesis :=
      isParenthesis_remarkLayer rfl
    have hsame := hall _ _ _ _ _ h (List.forall_mem_singleton.2 hlayer) (by decide) [] true
    exact absurd hsame (by decide)

end CodeAtlas
