import Mathlib.Data.List.Lex
import CodeAtlas.Outline.Extract
import CodeAtlas.Proofs.Traversal

/-!
# Symbols are found in the order of the nodes

The symbols of a tree are those of its nodes, each of which is looked at once, parents before
children and children from left to right.

- `Node.at?`, `Cursor.address`: the indices of the children that lead to a node.
- `Cursor.pairwise_address`: a cursor passes rising addresses.
- `Cursor.at?_eq_some_iff`: it passes each address of the tree.
- `Node.symbolsUnder`: the symbols of a tree, by recursion.
- `symbolsOf_preorder`: the traversal ends, leaves no node out and finds these symbols.
-/

namespace CodeAtlas

/-! ## Addresses -/

def Node.at? : Node → List Nat → Option Node
  | n, [] => some n
  | n, i :: path => (n.children[i]?).bind fun child => child.at? path

/-- Addresses are followed one part after the other. -/
theorem Node.at?_append (n : Node) (path rest : List Nat) :
    n.at? (path ++ rest) = (n.at? path).bind fun m => m.at? rest := by
  induction path generalizing n with
  | nil => rfl
  | cons i path ih => simp [Node.at?, ih, Option.bind_assoc]

def Frame.index (f : Frame) : Nat := f.parent.children.length - (f.right.length + 1)

theorem Frame.index_of_split {parent child : Node} {left right : List Node}
    (h : parent.children = left ++ child :: right) : Frame.index ⟨parent, right⟩ = left.length := by
  simp [Frame.index, h]

namespace Cursor

def addressOf (frames : List Frame) : List Nat := (frames.map Frame.index).reverse

/-- The indices of the children that lead from the root to the node. -/
def address (c : Cursor) : List Nat := addressOf c.frames

theorem addressOf_cons (f : Frame) (frames : List Frame) :
    addressOf (f :: frames) = addressOf frames ++ [f.index] := by
  simp [addressOf]

section Addresses

variable {enters : Node → Bool}

/-- Steps down make an address longer. -/
theorem Reached.address_append {start c : Cursor} (h : Reached enters start c) :
    ∃ rest, c.address = start.address ++ rest := by
  induction h with
  | start => exact ⟨[], (List.append_nil _).symm⟩
  | @child c left right child _ _ _ ih =>
    obtain ⟨rest, hrest⟩ := ih
    refine ⟨rest ++ [Frame.index ⟨c.node, right⟩], ?_⟩
    rw [address, addressOf_cons, ← address, hrest, List.append_assoc]

/-- The address of a place below a child goes on with the index of the child. -/
theorem address_of_mem_places {c : Cursor} {parent child : Node} {left right : List Node}
    {above : List Frame} (hsplit : parent.children = left ++ child :: right)
    (hc : c ∈ places enters (⟨parent, right⟩ :: above) child) :
    ∃ rest, c.address = addressOf above ++ left.length :: rest := by
  obtain ⟨rest, hrest⟩ := (mem_places.1 hc).address_append
  refine ⟨rest, ?_⟩
  rw [hrest, address, addressOf_cons, Frame.index_of_split hsplit, List.append_assoc]
  rfl

/-- Behind a child, addresses are greater than below it. -/
theorem pairwise_placesAmong {parent : Node} {above : List Frame} {left children : List Node}
    (hsplit : parent.children = left ++ children)
    (h : ∀ n ∈ children, ∀ above,
      (places enters above n).Pairwise fun c d => c.address < d.address) :
    (placesAmong enters parent above children).Pairwise fun c d => c.address < d.address := by
  induction children generalizing left with
  | nil => exact .nil
  | cons child right ih =>
    have hrest : parent.children = (left ++ [child]) ++ right := by simpa using hsplit
    rw [placesAmong, List.pairwise_append]
    refine ⟨h child (by simp) _, ih hrest fun n hn => h n (List.mem_cons_of_mem _ hn), ?_⟩
    intro c hc d hd
    -- The addresses have the same beginning, and then the index of the later child is greater.
    obtain ⟨between, later, behind, hbetween, hlater⟩ := mem_placesAmong.1 hd
    have hsplit' : parent.children = (left ++ child :: between) ++ later :: behind := by
      simp [hsplit, hbetween]
    obtain ⟨path, hpath⟩ := address_of_mem_places hsplit hc
    obtain ⟨path', hpath'⟩ := address_of_mem_places hsplit' hlater
    rw [hpath, hpath']
    refine List.append_left_lt (List.cons_lt_cons_iff.2 (.inl ?_))
    simp

/-- A parent comes before its children, and a child before those to its right. -/
theorem pairwise_places (above : List Frame) (n : Node) :
    (places enters above n).Pairwise fun c d => c.address < d.address := by
  induction n using Node.induction generalizing above with
  | mk info children ih =>
    have hnone : (Node.mk info children).children = [] ++ children := rfl
    rw [places, List.pairwise_cons]
    split
    · refine ⟨fun c hc => ?_, pairwise_placesAmong hnone ih⟩
      obtain ⟨left, child, right, hsplit, hchild⟩ := mem_placesAmong.1 hc
      have hparent : (Node.mk info children).children = left ++ child :: right := hsplit
      obtain ⟨path, hpath⟩ := address_of_mem_places hparent hchild
      have hlonger : addressOf above ++ [] < addressOf above ++ left.length :: path :=
        List.append_left_lt (List.nil_lt_cons left.length path)
      rw [List.append_nil] at hlonger
      rw [hpath, address]
      exact hlonger
    · simp

/-- An address leads to the node that it belongs to. -/
theorem Reached.at?_address {root : Node} {c : Cursor} (h : Reached enters (ofRoot root) c) :
    root.at? c.address = some c.node := by
  induction h with
  | start => rfl
  | @child c left right child _ _ hsplit ih =>
    rw [address, addressOf_cons, ← address, Node.at?_append, ih, Frame.index_of_split hsplit]
    simp [Node.at?, hsplit]

/-- If all nodes are entered, each address below a place is reached. -/
theorem Reached.exists_of_at? {start c : Cursor} (hc : Reached (fun _ => true) start c)
    {n : Node} {path : List Nat} (h : c.node.at? path = some n) :
    ∃ d, Reached (fun _ => true) start d ∧ d.address = c.address ++ path ∧ d.node = n := by
  induction path generalizing c with
  | nil => exact ⟨c, hc, (List.append_nil _).symm, Option.some.inj h⟩
  | cons i path ih =>
    rw [Node.at?, Option.bind_eq_some_iff] at h
    obtain ⟨child, hchild, hpath⟩ := h
    -- The child with the index is one step down, and the induction goes on from there.
    obtain ⟨hi, rfl⟩ := List.getElem?_eq_some_iff.1 hchild
    have hsplit : c.node.children = c.node.children.take i ++ c.node.children[i] ::
        c.node.children.drop (i + 1) := by
      rw [List.getElem_cons_drop, List.take_append_drop]
    obtain ⟨d, hd, haddress, hn⟩ := ih (hc.child rfl hsplit) hpath
    refine ⟨d, hd, ?_, hn⟩
    rw [haddress, address, addressOf_cons, ← address, Frame.index_of_split hsplit,
      List.length_take, Nat.min_eq_left (Nat.le_of_lt hi), List.append_assoc]
    rfl

end Addresses

/-! ## The whole traversal -/

/-- To the next node is a move that enters every node. -/
theorem advance?_all : advance? (fun _ => true) = next? := rfl

/-- All places of a tree are those that are passed if every node is entered. -/
theorem all_eq_places (root : Node) : all root = places (fun _ => true) [] root :=
  walk_eq_places (fun _ => true) root

/-- The traversal passes each address of the tree, and nothing else. -/
theorem at?_eq_some_iff {root n : Node} {path : List Nat} :
    root.at? path = some n ↔ ∃ c ∈ all root, c.address = path ∧ c.node = n := by
  simp only [all_eq_places, mem_places]
  constructor
  · intro h
    exact Reached.start.exists_of_at? h
  · rintro ⟨c, hc, rfl, rfl⟩
    exact hc.at?_address

theorem map_node_placesAmong {parent : Node} {above : List Frame} {children : List Node}
    (h : ∀ n ∈ children, ∀ above, (places (fun _ => true) above n).map (·.node) = n.preorder) :
    (placesAmong (fun _ => true) parent above children).map (·.node) = Node.preorders children := by
  induction children with
  | nil => rfl
  | cons child right ih =>
    rw [placesAmong, List.map_append, h child (by simp),
      ih fun n hn => h n (List.mem_cons_of_mem _ hn), Node.preorders]

/-- The places at and below a node are its nodes in pre-order. -/
theorem map_node_places (above : List Frame) (n : Node) :
    (places (fun _ => true) above n).map (·.node) = n.preorder := by
  induction n using Node.induction generalizing above with
  | mk info children ih =>
    rw [places, if_pos rfl, List.map_cons, map_node_placesAmong ih, Node.preorder]

end Cursor

/-! ## Symbols -/

namespace Node

def symbolUnder? (src : Source) (lines : Bool) (parent : Option Node) (n : Node) : Option Symbol :=
  Cursor.symbol? src lines ⟨n, parent.toList.map fun p => ⟨p, []⟩⟩

mutual

/-- The symbols of a node and of all nodes below it, parents first and children from left to
right. -/
def symbolsUnder (src : Source) (lines : Bool) (parent : Option Node) : Node → List Symbol
  | mk info children =>
    ((mk info children).symbolUnder? src lines parent).toList
      ++ symbolsAmong src lines (mk info children) children

def symbolsAmong (src : Source) (lines : Bool) (parent : Node) : List Node → List Symbol
  | [] => []
  | child :: right =>
    symbolsUnder src lines (some parent) child ++ symbolsAmong src lines parent right

end

end Node

namespace Cursor

variable {src : Source} {lines : Bool}

/-- Of what lies around a node only its parent matters. -/
theorem symbol?_eq_symbolUnder? (c : Cursor) :
    c.symbol? src lines = c.node.symbolUnder? src lines c.parentNode? := by
  obtain ⟨node, frames⟩ := c
  cases frames with
  | nil => rfl
  | cons f frames => rfl

theorem filterMap_placesAmong {parent : Node} {above : List Frame} {children : List Node}
    (h : ∀ n ∈ children, ∀ above, (places (fun _ => true) above n).filterMap (symbol? src lines)
      = n.symbolsUnder src lines (above.head?.map (·.parent))) :
    (placesAmong (fun _ => true) parent above children).filterMap (symbol? src lines)
      = Node.symbolsAmong src lines parent children := by
  induction children with
  | nil => rfl
  | cons child right ih =>
    rw [placesAmong, List.filterMap_append, h child (by simp),
      ih fun n hn => h n (List.mem_cons_of_mem _ hn), Node.symbolsAmong]
    rfl

/-- The symbols of the places at and below a node are those of its subtree. -/
theorem filterMap_places (above : List Frame) (n : Node) :
    (places (fun _ => true) above n).filterMap (symbol? src lines)
      = n.symbolsUnder src lines (above.head?.map (·.parent)) := by
  induction n using Node.induction generalizing above with
  | mk info children ih =>
    have hself : symbol? src lines ⟨.mk info children, above⟩
        = (Node.mk info children).symbolUnder? src lines (above.head?.map (·.parent)) := by
      rw [symbol?_eq_symbolUnder?, parentNode?, ancestors, List.head?_map]
    rw [places, if_pos rfl, List.filterMap_cons, hself, filterMap_placesAmong ih,
      Node.symbolsUnder]
    cases (Node.mk info children).symbolUnder? src lines (above.head?.map (·.parent)) <;> rfl

end Cursor

/-- The traversal of a tree ends. It passes the nodes of the tree, parents before children and
children from left to right, and each address once; what it finds are the symbols of the nodes, in
this order. -/
theorem symbolsOf_preorder (tree : SyntaxTree) (lines : Bool) :
    Cursor.Passes Cursor.next? (.ofRoot tree.root) (Cursor.all tree.root) none ∧
    (Cursor.all tree.root).map (·.node) = tree.root.preorder ∧
    (Cursor.all tree.root).Pairwise (fun c d => c.address < d.address) ∧
    (∀ (path : List Nat) (n : Node), tree.root.at? path = some n ↔
      ∃ c ∈ Cursor.all tree.root, c.address = path ∧ c.node = n) ∧
    symbolsOf tree lines = tree.root.symbolsUnder tree.source lines none := by
  refine ⟨?_, ?_, ?_, fun _ _ => Cursor.at?_eq_some_iff, ?_⟩
  · rw [Cursor.all_eq_places, ← Cursor.advance?_all]
    exact Cursor.passes_root _ tree.root
  · rw [Cursor.all_eq_places]
    exact Cursor.map_node_places [] tree.root
  · rw [Cursor.all_eq_places]
    exact Cursor.pairwise_places [] tree.root
  · rw [symbolsOf, Cursor.all_eq_places]
    exact Cursor.filterMap_places [] tree.root

end CodeAtlas
