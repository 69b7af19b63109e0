import Mathlib.Data.List.Chain
import Mathlib.Data.List.Forall2
import CodeAtlas.Proofs.SymbolOrder

/-!
# Lines follow the source

The line of a symbol is told by the line feeds in front of the node that declares it. Since nodes
are passed in the order in which they start, the lines of symbols never fall.

- `Source.row_ofList`: the rows of a source count its line feeds.
- `Node.StartsInOrder`: nodes start in the order of the tree.
- `Node.StartsInOrder.pairwise_preorder`: then they start in the order in which they are passed.
- `Node.IsNested.startsInOrder`: they do so where they lie in their parents, one behind the other.
- `SyntaxTree.declarations`: the places that declare symbols.
- `symbolsOf_lines_follow_source`: the lines of symbols rise with the source.
-/

namespace CodeAtlas

/-! ## Rows of a source -/

namespace Source

/-- The running totals are pushed behind what is done. -/
theorem toList_totals (weight : Char → Nat) (done : Array Nat) (total : Nat) (text : List Char) :
    (totals weight done total text).toList
      = done.toList ++ text.scanl (fun sum c => sum + weight c) total := by
  induction text generalizing done total with
  | nil => simp [totals]
  | cons c rest ih => simp [totals, ih]

theorem foldl_rows (text : List Char) (total : Nat) :
    text.foldl (fun sum c => sum + if c = '\n' then 1 else 0) total
      = total + text.count '\n' := by
  induction text generalizing total with
  | nil => rfl
  | cons c rest ih =>
    rw [List.foldl_cons, ih, List.count_cons]
    simp only [beq_iff_eq]
    omega

/-- Before a position there are as many rows as line feeds. -/
theorem row_ofList {text : List Char} {p : Position} (h : p ≤ text.length) :
    (ofList text).row p = (text.take p).count '\n' := by
  have hrow : (ofList text).rowsBefore[p]? = some ((text.take p).count '\n') := by
    rw [← Array.getElem?_toList, ofList, toList_totals, List.nil_append, List.getElem?_scanl,
      if_pos h, foldl_rows, Nat.zero_add]
  rw [row, Array.getD_eq_getD_getElem?, hrow, Option.getD_some]

end Source

/-- The line of a position of a text; lines are counted from one. -/
def lineAt (text : List Char) (p : Position) : Nat := (text.take p).count '\n' + 1

/-- Lines rise with positions. -/
theorem lineAt_mono (text : List Char) {p q : Position} (h : p ≤ q) :
    lineAt text p ≤ lineAt text q := by
  have htake : text.take p <+: text.take q := List.take_prefix_take_left h
  exact Nat.succ_le_succ (htake.sublist.count_le '\n')

/-- No position is beyond the last line. -/
theorem lineAt_le (text : List Char) (p : Position) : lineAt text p ≤ text.count '\n' + 1 :=
  Nat.succ_le_succ ((List.take_sublist p text).count_le '\n')

/-! ## Starts of nodes -/

namespace Node

/-- Nowhere in a tree a node starts before its parent, or before its preceding sibling or a node
that lies in that sibling. If only the siblings themselves were compared, a node deep in one of them
could start behind the next one, although it is passed first. -/
def StartsInOrder (root : Node) : Prop :=
  ∀ n ∈ root.preorder,
    (∀ child ∈ n.children, n.info.start ≤ child.info.start) ∧
    n.children.IsChain fun sibling child =>
      ∀ m ∈ sibling.preorder, m.info.start ≤ child.info.start

def StartsWithin (root : Node) (text : List Char) : Prop :=
  ∀ n ∈ root.preorder, n.info.start ≤ text.length

instance (root : Node) : Decidable root.StartsInOrder :=
  inferInstanceAs (Decidable (∀ n ∈ root.preorder, _))

instance (root : Node) (text : List Char) : Decidable (root.StartsWithin text) :=
  inferInstanceAs (Decidable (∀ n ∈ root.preorder, _))

theorem preorders_eq_flatMap (children : List Node) :
    preorders children = children.flatMap preorder := by
  induction children with
  | nil => rfl
  | cons child right ih => rw [preorders, ih, List.flatMap_cons]

namespace StartsInOrder

variable {n : Node}

theorem of_mem_children (h : n.StartsInOrder) {child : Node} (hchild : child ∈ n.children) :
    child.StartsInOrder :=
  fun m hm => h m (preorder_subset_of_mem_children hchild hm)

/-- No node in a tree starts before the tree. -/
theorem start_le (h : n.StartsInOrder) : ∀ m ∈ n.preorder, n.info.start ≤ m.info.start := by
  induction n using Node.induction with
  | mk info children ih =>
    intro m hm
    rw [preorder, List.mem_cons] at hm
    rcases hm with rfl | hm
    · exact Nat.le_refl _
    · obtain ⟨child, hchild, hmem⟩ := mem_preorders.1 hm
      have hparent := (h _ (mem_preorder_self _)).1 child hchild
      exact Nat.le_trans hparent (ih child hchild (h.of_mem_children hchild) m hmem)

/-- Behind a child no node starts before the child or a node in it. -/
theorem pairwise_children (h : n.StartsInOrder) :
    n.children.Pairwise fun a b =>
      ∀ m ∈ a.preorder, ∀ k ∈ b.preorder, m.info.start ≤ k.info.start := by
  -- What is in a child starts before the next one, and so before all children behind that.
  have htrans : IsTrans Node fun a b => ∀ m ∈ a.preorder, m.info.start ≤ b.info.start :=
    ⟨fun _ b _ hab hbc m hm => Nat.le_trans (hab m hm) (hbc b b.mem_preorder_self)⟩
  have hstarts := List.isChain_iff_pairwise.1 (h n n.mem_preorder_self).2
  refine hstarts.imp_of_mem fun _ hb hab m hm k hk => ?_
  exact Nat.le_trans (hab m hm) ((h.of_mem_children hb).start_le k hk)

/-- If nodes start in the order of the tree, they start in the order in which they are passed. -/
theorem pairwise_preorder (h : n.StartsInOrder) :
    n.preorder.Pairwise fun a b => a.info.start ≤ b.info.start := by
  induction n using Node.induction with
  | mk info children ih =>
    have hbelow := h.start_le
    rw [preorder, List.forall_mem_cons] at hbelow
    rw [preorder, List.pairwise_cons, preorders_eq_flatMap, List.pairwise_flatMap]
    refine ⟨?_, fun child hchild => ih child hchild (h.of_mem_children hchild), ?_⟩
    · rw [← preorders_eq_flatMap]
      exact hbelow.2
    · exact h.pairwise_children

end StartsInOrder

/-- Nodes lie in their parents, one behind the other. -/
def IsNested (root : Node) : Prop :=
  ∀ n ∈ root.preorder, n.info.start ≤ n.info.stop ∧
    (∀ child ∈ n.children, n.info.start ≤ child.info.start ∧ child.info.stop ≤ n.info.stop) ∧
    n.children.IsChain fun sibling child => sibling.info.stop ≤ child.info.start

instance (root : Node) : Decidable root.IsNested :=
  inferInstanceAs (Decidable (∀ n ∈ root.preorder, _))

namespace IsNested

variable {n : Node}

theorem of_mem_children (h : n.IsNested) {child : Node} (hchild : child ∈ n.children) :
    child.IsNested :=
  fun m hm => h m (preorder_subset_of_mem_children hchild hm)

/-- No node in a tree starts behind the end of the tree. -/
theorem start_le_stop (h : n.IsNested) : ∀ m ∈ n.preorder, m.info.start ≤ n.info.stop := by
  induction n using Node.induction with
  | mk info children ih =>
    intro m hm
    have hnode := h _ (mem_preorder_self _)
    rw [preorder, List.mem_cons] at hm
    rcases hm with rfl | hm
    · exact hnode.1
    · obtain ⟨child, hchild, hmem⟩ := mem_preorders.1 hm
      have hstart := ih child hchild (h.of_mem_children hchild) m hmem
      exact Nat.le_trans hstart (hnode.2.1 child hchild).2

/-- Where nodes lie in their parents, one behind the other, they start in the order of the tree. -/
theorem startsInOrder (h : n.IsNested) : n.StartsInOrder := by
  intro m hm
  have hnested : m.IsNested := fun k hk => h k (preorder_subset hm hk)
  obtain ⟨-, hinside, hbehind⟩ := h m hm
  refine ⟨fun child hchild => (hinside child hchild).1, ?_⟩
  refine hbehind.imp_of_mem_imp fun sibling child hsibling _ hle k hk => ?_
  exact Nat.le_trans ((hnested.of_mem_children hsibling).start_le_stop k hk) hle

end IsNested

end Node

/-! ## Lines of symbols -/

/-- The places of a tree that declare symbols, in the order in which they are passed. -/
def SyntaxTree.declarations (tree : SyntaxTree) : List Cursor :=
  (Cursor.all tree.root).filter fun c => (c.declared? tree.source).isSome

theorem forall₂_filterMap {α β : Type} (f : α → Option β) (items : List α) :
    List.Forall₂ (fun a b => a ∈ items ∧ f a = some b) (items.filter fun a => (f a).isSome)
      (items.filterMap f) := by
  induction items with
  | nil => exact .nil
  | cons a rest ih =>
    have hrest := ih.imp fun _ _ h => And.imp_left (List.mem_cons_of_mem a) h
    cases hf : f a with
    | none => simpa [hf] using hrest
    | some b => simpa [hf] using hrest

/-- Each place that declares a symbol gives one. -/
theorem forall₂_declarations (tree : SyntaxTree) (lines : Bool) :
    List.Forall₂ (fun c s => c ∈ Cursor.all tree.root ∧ c.symbol? tree.source lines = some s)
      tree.declarations (symbolsOf tree lines) := by
  have hdeclared : tree.declarations
      = (Cursor.all tree.root).filter fun c => (c.symbol? tree.source lines).isSome :=
    List.filter_congr fun c _ => by rw [Cursor.symbol?, Option.isSome_map]
  rw [hdeclared, symbolsOf]
  exact forall₂_filterMap _ _

/-- A symbol has the sort and name that are declared, and the line of its node if lines are asked
for. -/
theorem Cursor.symbol?_eq_some {src : Source} {lines : Bool} {c : Cursor} {s : Symbol}
    (h : c.symbol? src lines = some s) :
    c.declared? src = some (s.kind, s.name.toList) ∧
      s.line = if lines then some (c.node.line src) else none := by
  rw [symbol?, Option.map_eq_some_iff] at h
  obtain ⟨⟨kind, name⟩, hdeclared, rfl⟩ := h
  exact ⟨by simpa using hdeclared, rfl⟩

/-- The places of a tree are its nodes, in the same order. -/
theorem map_node_all (root : Node) : (Cursor.all root).map (·.node) = root.preorder := by
  rw [Cursor.all_eq_places]
  exact Cursor.map_node_places [] root

/-- In a tree over a text the line of a symbol is that on which its node starts. -/
theorem line_of_symbol? {text : List Char} {root : Node} (hwithin : root.StartsWithin text)
    {c : Cursor} (hc : c ∈ Cursor.all root) {s : Symbol}
    (hs : c.symbol? (.ofList text) true = some s) :
    s.line = some (lineAt text c.node.info.start) := by
  have hmem : c.node ∈ root.preorder := map_node_all root ▸ List.mem_map_of_mem hc
  rw [(Cursor.symbol?_eq_some hs).2, if_pos rfl, Node.line, Source.row_ofList (hwithin _ hmem),
    lineAt]

/-- If the nodes of a tree start in the order of the tree, then in a tree over a text the lines of
symbols never fall. Each of them is the line on which the node starts that declares the symbol. -/
theorem symbolsOf_lines_follow_source {text : List Char} {root : Node}
    (horder : root.StartsInOrder) (hwithin : root.StartsWithin text) :
    let tree : SyntaxTree := ⟨.ofList text, root⟩
    List.Forall₂ (fun c s => c.declared? tree.source = some (s.kind, s.name.toList) ∧
      s.line = some (lineAt text c.node.info.start)) tree.declarations (symbolsOf tree true) ∧
    (symbolsOf tree true).Pairwise (fun s t => ∀ l ∈ s.line, ∀ m ∈ t.line, l ≤ m) ∧
    ∀ s ∈ symbolsOf tree true, ∃ l, s.line = some l ∧ 1 ≤ l ∧ l ≤ text.count '\n' + 1 := by
  intro tree
  refine ⟨?_, ?_, ?_⟩
  · exact (forall₂_declarations tree true).imp fun c s h =>
      ⟨(Cursor.symbol?_eq_some h.2).1, line_of_symbol? hwithin h.1 h.2⟩
  · have hstarts := horder.pairwise_preorder
    rw [← map_node_all, List.pairwise_map] at hstarts
    rw [symbolsOf, List.pairwise_filterMap]
    refine hstarts.imp_of_mem fun hc hd hle s hs t ht l hl m hm => ?_
    rw [line_of_symbol? hwithin hc hs] at hl
    rw [line_of_symbol? hwithin hd ht] at hm
    obtain rfl := Option.some.inj hl
    obtain rfl := Option.some.inj hm
    exact lineAt_mono text hle
  · intro s hs
    rw [symbolsOf, List.mem_filterMap] at hs
    obtain ⟨c, hc, hs⟩ := hs
    exact ⟨_, line_of_symbol? hwithin hc hs, Nat.succ_le_succ (Nat.zero_le _), lineAt_le text _⟩

/-- A function with a class in it, a method in that, and a route behind them. -/
def nestedText : List Char := "function f()\x7b\nclass A\x7b\nm()\x7b\x7d\x7d\x7d\napp.get()".toList

def nestedRoot : Node :=
  branchNode (.other "program") 0 40 [] [
    branchNode .functionDeclaration 0 30 [(.name, 1)] [
      leafNode (.token "function") 0 8, leafNode .identifier 9 10,
      leafNode (.other "formal_parameters") 10 12,
      branchNode (.other "statement_block") 12 30 [] [
        branchNode .classDeclaration 14 29 [(.name, 1)] [
          leafNode (.token "class") 14 19, leafNode .identifier 20 21,
          branchNode .classBody 21 29 [] [
            branchNode .methodDefinition 23 28 [(.name, 0)] [
              leafNode .propertyIdentifier 23 24, leafNode (.other "formal_parameters") 24 26,
              leafNode (.other "statement_block") 26 28]]]]],
    branchNode .callExpression 31 40 [(.function, 0), (.arguments, 1)] [
      branchNode .memberExpression 31 38 [(.object, 0), (.property, 2)] [
        leafNode .identifier 31 34, leafNode (.token ".") 34 35,
        leafNode .propertyIdentifier 35 38],
      leafNode .arguments 38 40]]

/-- A symbol of each sort, each on the next line. -/
theorem symbolsOf_lines_follow_source_nested :
    nestedRoot.StartsInOrder ∧ nestedRoot.StartsWithin nestedText ∧
    symbolsOf ⟨.ofList nestedText, nestedRoot⟩ true
      = [⟨.function, "f", some 1⟩, ⟨.classDecl, "A", some 2⟩, ⟨.method, "m", some 3⟩,
        ⟨.route, "GET", some 4⟩] ∧
    (symbolsOf ⟨.ofList nestedText, nestedRoot⟩ true).Pairwise
      (fun s t => ∀ l ∈ s.line, ∀ m ∈ t.line, l ≤ m) := by
  have hnested : nestedRoot.IsNested := by decide
  have horder : nestedRoot.StartsInOrder := hnested.startsInOrder
  have hwithin : nestedRoot.StartsWithin nestedText := by decide
  exact ⟨horder, hwithin, by decide, (symbolsOf_lines_follow_source horder hwithin).2.1⟩

end CodeAtlas
