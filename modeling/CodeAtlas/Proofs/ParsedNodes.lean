import Mathlib.Tactic.DefEqTransformations
import CodeAtlas.Outline.Ladder
import CodeAtlas.Proofs.Traversal

/-!
# Nodes of parsed texts

Whatever a text is, a node of its tree has the kind of a symbol of the grammar or one that a
production names, and roles that a production gives.

- `Node.Fits`: a node that could be made with a grammar.
- `fits_of_mem_parse`: the nodes of a parsed text are such nodes.
- `Node.Fits.kind_ne_token`: a fixed text that the grammar lacks is no kind of them.
- `Node.Fits.child?_eq_none`: two roles that no production gives together.
- `chain_of_mem_parse`: how optional chains show up in the trees of each language.
-/

namespace CodeAtlas

/-- A kind that a production of a grammar gives to a part. -/
def Grammar.Names (g : Grammar) (kind : Kind) : Prop := ∃ i, some kind ∈ (g.production i).aliases

structure Node.Fits (g : Grammar) (n : Node) : Prop where
  kind : (∃ symbol, n.kind = Piece.kindOf g symbol) ∨ g.Names n.kind
  roles : n.info.roles = [] ∨ ∃ p, n.info.roles = Piece.roles g p

namespace Piece

variable {g : Grammar}

/-- What holds of a piece if it holds of its parts holds of every piece. -/
@[elab_as_elim]
theorem induction {motive : Piece → Prop}
    (mk : ∀ info children, (∀ c ∈ children, motive c) → motive (.mk info children)) (p : Piece) :
    motive p :=
  Piece.rec (motive_1 := motive) (motive_2 := fun children => ∀ c ∈ children, motive c) mk
    (fun _ h => absurd h List.not_mem_nil)
    (fun _ _ hfirst hrest c hc => (List.mem_cons.1 hc).elim (fun h => h ▸ hfirst) (hrest c)) p

/-- The node of a piece fits if the kind that it is given is one of the grammar. -/
theorem fits_nodeWith {name : Option Kind} (hname : ∀ kind ∈ name, g.Names kind) (p : Piece)
    (children : List Node) : (nodeWith g name p children).Fits g where
  kind := by
    cases name with
    | none => exact .inl ⟨p.symbol, rfl⟩
    | some kind => exact .inr (hname kind rfl)
  roles := .inr ⟨p, rfl⟩

/-- The nodes of some parts fit, if those of each part do. -/
theorem fits_childNodes {parts : List Piece}
    (h : ∀ c ∈ parts, ∀ name : Option Kind, (∀ kind ∈ name, g.Names kind) →
      ∀ m ∈ nodes g name c, ∀ n ∈ m.preorder, n.Fits g)
    {names : List (Option Kind)} (hnames : ∀ kind, some kind ∈ names → g.Names kind) :
    ∀ m ∈ childNodes g names parts, ∀ n ∈ m.preorder, n.Fits g := by
  induction parts generalizing names with
  | nil => exact fun m hm => absurd hm List.not_mem_nil
  | cons c rest ih =>
    obtain ⟨hc, hrest⟩ := List.forall_mem_cons.1 h
    intro m hm
    rw [childNodes] at hm
    split at hm
    · rcases List.mem_append.1 hm with hm | hm
      · exact hc none (by simp) m hm
      · exact ih hrest hnames m hm
    · rcases List.mem_append.1 hm with hm | hm
      · refine hc _ (fun kind hkind => hnames kind ?_) m hm
        cases names with
        | nil => simp at hkind
        | cons name names => exact List.mem_cons.2 (.inl hkind.symm)
      · exact ih hrest (fun kind hkind => hnames kind (List.mem_of_mem_tail hkind)) m hm

theorem names_production (i : Nat) :
    ∀ kind, some kind ∈ (g.production i).aliases → g.Names kind :=
  fun _ h => ⟨i, h⟩

theorem fits_of_mem_nodeWith {name : Option Kind} (hname : ∀ kind ∈ name, g.Names kind) (p : Piece)
    {children : List Node} (hchildren : ∀ m ∈ children, ∀ n ∈ m.preorder, n.Fits g) :
    ∀ n ∈ (nodeWith g name p children).preorder, n.Fits g := by
  intro n hn
  rw [nodeWith, Node.preorder, List.mem_cons, Node.mem_preorders] at hn
  rcases hn with rfl | ⟨child, hchild, hn⟩
  · exact fits_nodeWith hname _ _
  · exact hchildren child hchild n hn

/-- All nodes that a piece stands for could be made with the grammar. -/
theorem fits_nodes (p : Piece) {name : Option Kind} (hname : ∀ kind ∈ name, g.Names kind) :
    ∀ m ∈ nodes g name p, ∀ n ∈ m.preorder, n.Fits g := by
  induction p using Piece.induction generalizing name with
  | mk info parts ih =>
    have hchildren := fits_childNodes (fun c hc name hname => ih c hc hname)
      (names_production (g := g) info.production)
    intro m hm n hn
    rw [nodes] at hm
    split at hm
    · obtain rfl := List.mem_singleton.1 hm
      exact fits_of_mem_nodeWith hname _ hchildren n hn
    · exact hchildren m hm n hn

theorem fits_of_mem_toNode (p : Piece) : ∀ n ∈ (p.toNode g).preorder, n.Fits g := by
  have hname : ∀ kind ∈ (none : Option Kind), g.Names kind := nofun
  exact fits_of_mem_nodeWith hname p <|
    fits_childNodes (fun c _ _ hname => fits_nodes c hname) (names_production _)

/-! ## Roles -/

theorem roleAmong_nil (role : Field) (names : List (Option Kind)) (index before : Nat)
    (parts : List Piece) : roleAmong g role names [] index before parts = none := by
  cases parts <;> rfl

/-- A role in the list of a piece is found at the index that stands there. -/
theorem roleIndex_of_mem_roles {p : Piece} {role : Field} {i : Nat} (h : (role, i) ∈ roles g p) :
    roleIndex g role p = some i := by
  rw [roles] at h
  split at h
  · exact absurd h List.not_mem_nil
  · obtain ⟨other, -, hother⟩ := List.mem_filterMap.1 h
    obtain ⟨j, hj, hpair⟩ := Option.map_eq_some_iff.1 hother
    obtain ⟨rfl, rfl⟩ := Prod.mk.inj hpair
    exact hj

/-- A role is given only where the production has a place for it. -/
theorem slots_ne_nil {p : Piece} {role : Field} {i : Nat} (h : (roles g p).lookup role = some i) :
    (g.production p.info.production).slots role ≠ [] := by
  have hindex : roleIndex g role p = some i := by
    obtain ⟨front, back, hroles, -⟩ := List.lookup_eq_some_iff.1 h
    exact roleIndex_of_mem_roles (by simp [hroles])
  obtain ⟨info, parts⟩ := p
  intro hslots
  have hnone : roleIndex g role (mk info parts) = none := by
    rw [roleIndex]
    exact hslots ▸ roleAmong_nil ..
  exact absurd (hnone.symm.trans hindex) nofun

end Piece

theorem kindOf_errorSymbol (g : Grammar) : Piece.kindOf g errorSymbol = .error := by
  rw [Piece.kindOf, Grammar.info, if_pos rfl]

/-- The tree of a text comes from a piece, or it is a single error. -/
theorem parse_cases (g : Grammar) (src : Source) :
    (∃ p : Piece, parse g src = ⟨src, p.toNode g⟩) ∨
      parse g src = ⟨src, .mk ⟨.error, false, true, 0, src.size, []⟩ []⟩ := by
  -- The function is unfolded as a whole, since of a call the reading itself would be unfolded.
  have hparse : parse = parse := rfl
  conv at hparse =>
    rhs
    delta parse
  rw [hparse]
  beta_reduce
  generalize parsePieces g src = pieces
  cases pieces with
  | some p => exact .inl ⟨p, rfl⟩
  | none => exact .inr rfl

/-- The nodes of a parsed text could be made with the grammar. -/
theorem fits_of_mem_parse (g : Grammar) (src : Source) :
    ∀ n ∈ (parse g src).root.preorder, n.Fits g := by
  intro n hn
  rcases parse_cases g src with ⟨p, hparse⟩ | hparse
  · rw [hparse] at hn
    exact p.fits_of_mem_toNode n hn
  · rw [hparse, Node.preorder, Node.preorders, List.mem_singleton] at hn
    exact hn ▸ ⟨.inl ⟨errorSymbol, (kindOf_errorSymbol g).symm⟩, .inl rfl⟩

/-! ## What a grammar lacks -/

namespace Grammar

variable {g : Grammar}

/-- A symbol is an error, it has no nodes, or it is one of the symbols of the grammar. -/
theorem info_cases (g : Grammar) (symbol : SymbolId) :
    g.info symbol = .visible .error ∨ (∃ name, g.info symbol = .hidden name) ∨
      g.info symbol ∈ g.symbols := by
  rw [info]
  split
  · exact .inl rfl
  · split
    · exact .inr (.inl ⟨_, rfl⟩)
    · rw [Array.getD_eq_getD_getElem?]
      cases hentry : g.symbols[symbol]? with
      | none => exact .inr (.inl ⟨_, rfl⟩)
      | some entry => exact .inr (.inr (Array.mem_of_getElem? hentry))

/-- A production is one of the grammar, or it gives neither names nor roles. -/
theorem production_cases (g : Grammar) (i : Nat) :
    g.production i = ⟨[], []⟩ ∨ g.production i ∈ g.productions := by
  rw [production, Array.getD_eq_getD_getElem?]
  cases hentry : g.productions[i]? with
  | none => exact .inl rfl
  | some entry => exact .inr (Array.mem_of_getElem? hentry)

end Grammar

namespace Node.Fits

variable {g : Grammar} {n : Node}

/-- A fixed text that is no symbol of the grammar and no name of a part is no kind of a node. -/
theorem kind_ne_token (h : n.Fits g) {text : String}
    (hsymbols : SymbolInfo.visible (.token text) ∉ g.symbols)
    (hnames : ∀ p ∈ g.productions, some (.token text) ∉ p.aliases) : n.kind ≠ .token text := by
  intro hkind
  rcases h.kind with ⟨symbol, hsymbol⟩ | ⟨i, hname⟩
  · rw [hkind, Piece.kindOf] at hsymbol
    rcases g.info_cases symbol with hinfo | ⟨name, hinfo⟩ | hinfo
    · simp [hinfo] at hsymbol
    · simp [hinfo] at hsymbol
    · split at hsymbol
      · next kind hentry => exact hsymbols (hsymbol ▸ hentry ▸ hinfo)
      · exact absurd hsymbol nofun
  · rw [hkind] at hname
    rcases g.production_cases i with hempty | hproduction
    · simp [hempty] at hname
    · exact hnames _ hproduction hname

/-- No node has children of two roles that no production gives together. -/
theorem child?_eq_none (h : n.Fits g) {role other : Field}
    (hslots : ∀ p ∈ g.productions, p.slots role = [] ∨ p.slots other = []) :
    n.child? role = none ∨ n.child? other = none := by
  rcases h.roles with hroles | ⟨p, hroles⟩
  · simp [child?, hroles]
  · have hnone : ∀ r, (g.production p.info.production).slots r = [] → n.child? r = none := by
      intro r hr
      cases hlookup : (Piece.roles g p).lookup r with
      | none => rw [child?, hroles, hlookup, Option.bind_none]
      | some i => exact absurd hr (Piece.slots_ne_nil hlookup)
    rcases g.production_cases p.info.production with hempty | hproduction
    · exact .inl (hnone role (by rw [hempty]; rfl))
    · exact (hslots _ hproduction).imp (hnone role) (hnone other)

end Node.Fits

/-! ## Optional chains -/

def bareChain : Kind := .token "?."

def chainMark : Kind := .other "optional_chain"

/-- How nodes show optional chains. In plain scripts the mark is a node of its own. In the grammars
with types it never has the role of the mark of a call. -/
def Node.ShowsChain (language : Language) (n : Node) : Prop :=
  match language with
  | .javaScript => ∀ m ∈ n.children, m.kind ≠ bareChain
  | .typeScript | .tsx => n.child? .function = none ∨ n.child? .optionalChain = none

/-- The grammar of plain scripts has no fixed text for the mark. -/
theorem JavaScript.kind_ne_bareChain {n : Node} (h : n.Fits JavaScript.grammar) :
    n.kind ≠ bareChain := by
  have hsymbols : SymbolInfo.visible bareChain ∉
      SymbolInfo.hidden "end" :: tokens.map Entry.info ++ nonterminals := by decide
  have hnames : ∀ p ∈ productions, some bareChain ∉ p.aliases := by decide
  exact h.kind_ne_token (fun hmem => hsymbols (List.mem_toArray.1 hmem))
    fun p hp => hnames p (List.mem_toArray.1 hp)

/-- The grammars with types give no node both a callee and the mark of an optional chain. -/
theorem TypeScript.function_or_optionalChain {n : Node} (h : n.Fits TypeScript.grammar) :
    n.child? .function = none ∨ n.child? .optionalChain = none := by
  have hslots : ∀ p ∈ productions, p.slots .function = [] ∨ p.slots .optionalChain = [] := by decide
  exact h.child?_eq_none fun p hp => hslots p (List.mem_toArray.1 hp)

/-- In this grammar no node has both the role of a callee and that of the mark. -/
theorem Tsx.function_or_optionalChain {n : Node} (h : n.Fits Tsx.grammar) :
    n.child? .function = none ∨ n.child? .optionalChain = none := by
  have hslots : ∀ p ∈ productions, p.slots .function = [] ∨ p.slots .optionalChain = [] := by decide
  exact h.child?_eq_none fun p hp => hslots p (List.mem_toArray.1 hp)

/-- All nodes of a tree that the parser gives show chains as its language does. -/
theorem showsChain_of_mem_parse (language : Language) (src : Source) :
    ∀ n ∈ (parse language.grammar src).root.preorder, n.ShowsChain language := by
  intro n hn
  have hfits := fits_of_mem_parse language.grammar src
  cases language with
  | javaScript =>
    intro m hm
    have hmem := Node.preorder_subset hn
      (Node.preorder_subset_of_mem_children hm m.mem_preorder_self)
    exact JavaScript.kind_ne_bareChain (hfits m hmem)
  | typeScript => exact TypeScript.function_or_optionalChain (hfits n hn)
  | tsx => exact Tsx.function_or_optionalChain (hfits n hn)

end CodeAtlas
