import CodeAtlas.Proofs.ParsedNodes
import CodeAtlas.Proofs.Remarks

/-!
# Which calls are routes

A route is a call `RECV.VERB(args)` without an optional chain. All such calls are reported. Of the
others those are reported too whose argument is a template, and those with a chain whose mark is a
mere fixed text, as it is in the grammars with types.

- `Node.IsRouteCallee`, `Node.IsRouteCall`: the form of a route.
- `Node.CallForm`, `Node.MemberForm`: calls and members, as the grammars make them.
- `Node.CallForm.isSome_routeLabel?_iff`: which calls are reported.
- `routes_by_form`: how these differ from the calls of the form, in each language.
-/

namespace CodeAtlas

theorem RouteVerb.mem_all (verb : RouteVerb) : verb ∈ all := by
  cases verb <;> decide

/-- A name has a verb iff it is the method of one. -/
theorem RouteVerb.isSome_ofMethod?_iff {name : List Char} :
    (ofMethod? name).isSome = true ↔ ∃ verb : RouteVerb, verb.method = name := by
  simp [ofMethod?, mem_all]

namespace Node

/-! ## The form of a route -/

def parts (n : Node) : List Node := n.children.filter (!·.kind.isRemark)

/-- A member `RECV.VERB`, whatever mark there is between the two. -/
def IsRouteCallee (src : Source) (callee : Node) : Prop :=
  callee.kind = .memberExpression ∧ ∃ receiver mark property,
    callee.parts = [receiver, mark, property] ∧
    receiver.kind = .identifier ∧ receiver.text src ∈ routeReceivers ∧
    property.kind = .propertyIdentifier ∧ ∃ verb : RouteVerb, verb.method = property.text src

/-- A call `RECV.VERB(args)` with arguments in parentheses and without an optional chain. -/
def IsRouteCall (src : Source) (call : Node) : Prop :=
  ∃ callee between list, call.parts = callee :: (between ++ [list]) ∧
    callee.IsRouteCallee src ∧ list.kind = .arguments ∧
    ∀ m ∈ between ++ callee.parts, m.kind ≠ chainMark ∧ m.kind ≠ bareChain

/-! ## Calls and members of the grammars -/

/-- A call of any of the grammars: a callee, then marks and types, then arguments or a template. The
mark of an optional chain has its role if it is a node of its own. -/
structure CallForm (call callee : Node) (between : List Node) (list : Node) : Prop where
  parts : call.parts = callee :: (between ++ [list])
  function : call.child? .function = some callee
  optionalChain : call.child? .optionalChain = between.find? (·.kind == chainMark)
  list : list.kind = .arguments ∨ list.kind = .templateString

structure MemberForm (member receiver mark property : Node) : Prop where
  parts : member.parts = [receiver, mark, property]
  object : member.child? .object = some receiver
  property : member.child? .property = some property
  optionalChain : member.child? .optionalChain = [mark].find? (·.kind == chainMark)

variable {src : Source} {call callee list receiver mark property : Node} {between : List Node}

/-- A callee with the mark of an optional chain names no verb. -/
theorem calleeVerb?_of_optionalChain {chain : Node}
    (h : callee.child? .optionalChain = some chain) : callee.calleeVerb? src = none := by
  rw [calleeVerb?, h]

theorem calleeVerb?_of_kind_ne (h : callee.kind ≠ .memberExpression) :
    callee.calleeVerb? src = none := by
  rw [calleeVerb?]
  split
  · exact if_neg (by simp [h])
  · rfl

/-- The form of a member can be told by its parts. -/
theorem MemberForm.isRouteCallee_iff (h : MemberForm callee receiver mark property) :
    callee.IsRouteCallee src ↔ callee.kind = .memberExpression ∧
      receiver.kind = .identifier ∧ receiver.text src ∈ routeReceivers ∧
      property.kind = .propertyIdentifier ∧
      ∃ verb : RouteVerb, verb.method = property.text src := by
  constructor
  · rintro ⟨hkind, r, m, p, hparts, hform⟩
    obtain ⟨rfl, rfl, rfl⟩ : receiver = r ∧ mark = m ∧ property = p := by
      simpa [h.parts] using hparts
    exact ⟨hkind, hform⟩
  · rintro ⟨hkind, hform⟩
    exact ⟨hkind, receiver, mark, property, h.parts, hform⟩

/-- Of a member of the form only the mark can be that of an optional chain. -/
theorem MemberForm.no_chainMark_iff (h : MemberForm callee receiver mark property)
    (hcallee : callee.IsRouteCallee src) :
    (∀ m ∈ callee.parts, m.kind ≠ chainMark) ↔ mark.kind ≠ chainMark := by
  obtain ⟨-, hreceiver, -, hproperty, -⟩ := h.isRouteCallee_iff.1 hcallee
  simp [h.parts, hreceiver, hproperty, chainMark]

/-- A member names a verb if it is of the form and its mark has no role. -/
theorem MemberForm.isSome_calleeVerb?_iff (h : MemberForm callee receiver mark property) :
    (callee.calleeVerb? src).isSome = true ↔
      callee.IsRouteCallee src ∧ ∀ m ∈ callee.parts, m.kind ≠ chainMark := by
  by_cases hmark : mark.kind = chainMark
  · have hchain : callee.child? .optionalChain = some mark := by
      simp [h.optionalChain, hmark]
    rw [calleeVerb?_of_optionalChain hchain]
    simp only [Option.isSome_none, Bool.false_eq_true, false_iff]
    rintro ⟨hcallee, hparts⟩
    exact (h.no_chainMark_iff hcallee).1 hparts hmark
  · have hchain : callee.child? .optionalChain = none := by
      simp [h.optionalChain, hmark]
    have hparts : callee.IsRouteCallee src → ∀ m ∈ callee.parts, m.kind ≠ chainMark :=
      fun hcallee => (h.no_chainMark_iff hcallee).2 hmark
    rw [and_iff_left_of_imp hparts, h.isRouteCallee_iff, calleeVerb?, hchain, h.object, h.property]
    simp only
    split
    · next htests =>
      simp only [Bool.and_eq_true, beq_iff_eq, List.contains_iff_mem] at htests
      obtain ⟨⟨⟨hkind, hreceiver⟩, hproperty⟩, htext⟩ := htests
      rw [RouteVerb.isSome_ofMethod?_iff]
      exact ⟨fun hverb => ⟨hkind, hreceiver, htext, hproperty, hverb⟩, fun hform => hform.2.2.2.2⟩
    · next htests =>
      refine iff_of_false Bool.false_ne_true ?_
      rintro ⟨hkind, hreceiver, htext, hproperty, -⟩
      refine absurd ?_ htests
      simp only [Bool.and_eq_true, beq_iff_eq, List.contains_iff_mem]
      exact ⟨⟨⟨hkind, hreceiver⟩, hproperty⟩, htext⟩

/-- A call is reported if its callee is of the form and no mark has a role. -/
theorem CallForm.isSome_routeLabel?_iff (h : CallForm call callee between list)
    (hmember : callee.kind = .memberExpression →
      ∃ receiver mark property, MemberForm callee receiver mark property) :
    (call.routeLabel? src).isSome = true ↔
      callee.IsRouteCallee src ∧ ∀ m ∈ between ++ callee.parts, m.kind ≠ chainMark := by
  have hnone : call.child? .optionalChain = none ↔ ∀ m ∈ between, m.kind ≠ chainMark := by
    simp [h.optionalChain]
  rw [routeLabel?, Option.isSome_map, List.forall_mem_append]
  by_cases hbetween : ∀ m ∈ between, m.kind ≠ chainMark
  · rw [routeVerb?_eq_bind (hnone.2 hbetween), h.function, Option.bind_some]
    by_cases hkind : callee.kind = .memberExpression
    · obtain ⟨receiver, mark, property, hform⟩ := hmember hkind
      rw [hform.isSome_calleeVerb?_iff]
      exact and_congr_right fun _ => (and_iff_right hbetween).symm
    · rw [calleeVerb?_of_kind_ne hkind]
      exact iff_of_false Bool.false_ne_true fun hcallee => hkind hcallee.1.1
  · obtain ⟨chain, hchain⟩ := Option.ne_none_iff_exists'.1 (mt hnone.1 hbetween)
    rw [routeVerb?_of_optionalChain hchain]
    exact iff_of_false Bool.false_ne_true fun hmarks => hbetween hmarks.2.1

/-- Of a call of a grammar the form can be told by its parts. -/
theorem CallForm.isRouteCall_iff (h : CallForm call callee between list) :
    call.IsRouteCall src ↔ callee.IsRouteCallee src ∧ list.kind = .arguments ∧
      ∀ m ∈ between ++ callee.parts, m.kind ≠ chainMark ∧ m.kind ≠ bareChain := by
  constructor
  · rintro ⟨c, b, l, hparts, hform⟩
    rw [h.parts] at hparts
    obtain ⟨rfl, hrest⟩ := List.cons.inj hparts
    obtain ⟨rfl, hlast⟩ := List.append_inj' hrest rfl
    obtain rfl := List.singleton_injective hlast
    exact hform
  · rintro hform
    exact ⟨callee, between, list, h.parts, hform⟩

theorem mem_children_of_mem_parts {n m : Node} (h : m ∈ n.parts) : m ∈ n.children :=
  (List.mem_filter.1 h).1

/-- In plain scripts no part of a call or of its callee is a mark without a node of its own. -/
theorem CallForm.kind_ne_bareChain (h : CallForm call callee between list)
    (hcall : call.ShowsChain .javaScript) (hcallee : callee.ShowsChain .javaScript) :
    ∀ m ∈ between ++ callee.parts, m.kind ≠ bareChain := by
  refine List.forall_mem_append.2 ⟨fun m hm => hcall m ?_, fun m hm => hcallee m ?_⟩
  · exact mem_children_of_mem_parts (h.parts ▸ by simp [hm])
  · exact mem_children_of_mem_parts hm

/-- With types no mark between the callee and the arguments has a node of its own. -/
theorem CallForm.kind_ne_chainMark (h : CallForm call callee between list) {language : Language}
    (hlanguage : language ≠ .javaScript) (hcall : call.ShowsChain language) :
    ∀ m ∈ between, m.kind ≠ chainMark := by
  have hroles : call.child? .function = none ∨ call.child? .optionalChain = none := by
    cases language with
    | javaScript => exact absurd rfl hlanguage
    | typeScript => exact hcall
    | tsx => exact hcall
  have hchain : call.child? .optionalChain = none :=
    hroles.resolve_left (by simp [h.function])
  simpa [h.optionalChain] using hchain

end Node

/-- The calls that are reported as routes. All calls of the form are. The others that are reported
have a template for their arguments, or a mark of an optional chain that is a mere fixed text. In
plain scripts there are no such marks, and with types all marks between a callee and its arguments
are such. -/
theorem routes_by_form (language : Language) (src : Source) :
    (∀ n ∈ (parse language.grammar src).root.preorder, n.ShowsChain language) ∧
    ∀ call callee between list, Node.CallForm call callee between list →
      (callee.kind = .memberExpression →
        ∃ receiver mark property, Node.MemberForm callee receiver mark property) →
      call.ShowsChain language → callee.ShowsChain language →
      (call.IsRouteCall src → (call.routeLabel? src).isSome = true) ∧
      ((call.routeLabel? src).isSome = true ∧ ¬ call.IsRouteCall src ↔
        callee.IsRouteCallee src ∧ (∀ m ∈ between ++ callee.parts, m.kind ≠ chainMark) ∧
          (list.kind = .templateString ∨ ∃ m ∈ between ++ callee.parts, m.kind = bareChain)) ∧
      (language = .javaScript → ∀ m ∈ between ++ callee.parts, m.kind ≠ bareChain) ∧
      (language ≠ .javaScript → ∀ m ∈ between, m.kind ≠ chainMark) := by
  refine ⟨showsChain_of_mem_parse language src, ?_⟩
  intro call callee between list hform hmember hcall hcallee
  rw [hform.isSome_routeLabel?_iff hmember, hform.isRouteCall_iff]
  refine ⟨?_, ?_, ?_, ?_⟩
  · rintro ⟨hroute, -, hmarks⟩
    exact ⟨hroute, fun m hm => (hmarks m hm).1⟩
  · constructor
    · rintro ⟨⟨hroute, hmarks⟩, hnot⟩
      refine ⟨hroute, hmarks, hform.list.symm.imp_right fun hlist => ?_⟩
      by_contra hbare
      exact hnot ⟨hroute, hlist, fun m hm => ⟨hmarks m hm, fun h => hbare ⟨m, hm, h⟩⟩⟩
    · rintro ⟨hroute, hmarks, hother⟩
      refine ⟨⟨hroute, hmarks⟩, ?_⟩
      rintro ⟨-, hlist, hnone⟩
      rcases hother with htemplate | ⟨m, hm, hbare⟩
      · exact absurd (hlist.symm.trans htemplate) nofun
      · exact (hnone m hm).2 hbare
  · rintro rfl
    exact hform.kind_ne_bareChain hcall hcallee
  · exact fun hlanguage => hform.kind_ne_chainMark hlanguage hcall

/-! ## A route, an optional call and a template -/

/-- The call `app.get?.(x)`, where the mark is of some kind and may have a role. -/
def optionalCall (chain : Kind) (roles : List (Field × Nat)) : Node :=
  branchNode .callExpression 0 12 ([(.function, 0), (.arguments, 2)] ++ roles) [
    appGet, leafNode chain 7 9, argumentList 9 12 (lastArgument 10)]

def template : Node :=
  branchNode .templateString 7 10 [] [
    leafNode (.token "`") 7 8, leafNode (.other "string_fragment") 8 9, leafNode (.token "`") 9 10]

def taggedTemplate : Node :=
  branchNode .callExpression 0 10 [(.function, 0), (.arguments, 1)] [appGet, template]

namespace Node

theorem memberForm_appGet : MemberForm appGet (leafNode .identifier 0 3) (leafNode (.token ".") 3 4)
    (leafNode .propertyIdentifier 4 7) where
  parts := rfl
  object := rfl
  property := rfl
  optionalChain := rfl

theorem isRouteCallee_appGet {src : Source} (hreceiver : src.sliceList 0 3 = "app".toList)
    (hverb : src.sliceList 4 7 = "get".toList) : appGet.IsRouteCallee src := by
  refine memberForm_appGet.isRouteCallee_iff.2 ⟨rfl, rfl, ?_, rfl, .get, hverb.symm⟩
  exact List.mem_cons.2 (.inl hreceiver)

/-- Nodes without a mark show chains as each of the grammars has them. -/
theorem showsChain_of_unmarked {n : Node} (language : Language)
    (hmarks : ∀ m ∈ n.children, m.kind ≠ bareChain) (hrole : n.child? .optionalChain = none) :
    n.ShowsChain language := by
  cases language with
  | javaScript => exact hmarks
  | typeScript => exact .inr hrole
  | tsx => exact .inr hrole

theorem callForm_getCall (stop : Position) (list : List Node) :
    CallForm (getCall stop list) appGet [] (argumentList 7 stop list) where
  parts := rfl
  function := rfl
  optionalChain := rfl
  list := .inl rfl

/-- With types the mark has no role. -/
theorem callForm_optionalCall : CallForm (optionalCall bareChain []) appGet
    [leafNode bareChain 7 9] (argumentList 9 12 (lastArgument 10)) where
  parts := rfl
  function := rfl
  optionalChain := rfl
  list := .inl rfl

theorem callForm_taggedTemplate : CallForm taggedTemplate appGet [] template where
  parts := rfl
  function := rfl
  optionalChain := rfl
  list := .inr rfl

end Node

section

open Node

/-- A call of the form is reported in all languages. With types an optional call is, which is not of
the form. -/
theorem routes_by_form_optional :
    ((getCall 10 (lastArgument 8)).routeLabel? (.ofString "app.get(x)")).isSome = true ∧
    ((optionalCall bareChain []).routeLabel? (.ofString "app.get?.(x)")).isSome = true ∧
    ¬ (optionalCall bareChain []).IsRouteCall (.ofString "app.get?.(x)") := by
  have hmember : appGet.kind = .memberExpression →
      ∃ receiver mark property, MemberForm appGet receiver mark property :=
    fun _ => ⟨_, _, _, memberForm_appGet⟩
  have hmember' (language : Language) : appGet.ShowsChain language :=
    showsChain_of_unmarked language (by decide) rfl
  constructor
  · have hcall : (getCall 10 (lastArgument 8)).ShowsChain .javaScript :=
      showsChain_of_unmarked _ (by decide) rfl
    have hform := (routes_by_form .javaScript (.ofString "app.get(x)")).2 _ _ _ _
      (callForm_getCall _ _) hmember hcall (hmember' _)
    refine hform.1 ((callForm_getCall _ _).isRouteCall_iff.2 ⟨?_, rfl, ?_⟩)
    · exact isRouteCallee_appGet (by decide) (by decide)
    · decide
  · have hcall : (optionalCall bareChain []).ShowsChain .typeScript := .inr rfl
    have hform := (routes_by_form .typeScript (.ofString "app.get?.(x)")).2 _ _ _ _
      callForm_optionalCall hmember hcall (hmember' _)
    refine hform.2.1.2 ⟨isRouteCallee_appGet (by decide) (by decide), by decide, .inr ?_⟩
    exact ⟨_, List.mem_cons_self, rfl⟩

/-- With types an optional call is reported, and in each language a template is, although they are
not of the form. In plain scripts the same optional call is not reported. -/
theorem routes_by_form_others :
    (¬ ∀ language src call callee between list, CallForm call callee between list →
      (callee.kind = .memberExpression →
        ∃ receiver mark property, MemberForm callee receiver mark property) →
      call.ShowsChain language → callee.ShowsChain language →
      ((call.routeLabel? src).isSome = true ↔ call.IsRouteCall src)) ∧
    (∀ language, taggedTemplate.ShowsChain language) ∧
    (taggedTemplate.routeLabel? (.ofString "app.get`x`")).isSome = true ∧
    ¬ taggedTemplate.IsRouteCall (.ofString "app.get`x`") ∧
    (optionalCall chainMark [(.optionalChain, 1)]).routeLabel? (.ofString "app.get?.(x)") = none ∧
    (optionalCall bareChain []).routeLabel? (.ofString "app.get?.(x)") = some "GET x".toList := by
  refine ⟨fun hall => ?_, fun language => showsChain_of_unmarked language (by decide) rfl, by decide,
    fun hform => ?_, by decide, by decide⟩
  · have hcall : (optionalCall bareChain []).ShowsChain .typeScript := .inr rfl
    have hiff := hall .typeScript (.ofString "app.get?.(x)") _ _ _ _ callForm_optionalCall
      (fun _ => ⟨_, _, _, memberForm_appGet⟩) hcall
      (showsChain_of_unmarked _ (by decide) rfl)
    have hmarks := (callForm_optionalCall.isRouteCall_iff.1 (hiff.1 (by decide))).2.2
    exact (hmarks _ List.mem_cons_self).2 rfl
  · exact absurd (callForm_taggedTemplate.isRouteCall_iff.1 hform).2.1 nofun

end

end CodeAtlas
