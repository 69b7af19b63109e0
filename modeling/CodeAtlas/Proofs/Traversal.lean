import CodeAtlas.Syntax.Cursor

/-!
# What a cursor passes

A cursor that goes through a tree passes the places that a recursion on the tree lists, and then it
ends. It may leave out what lies below some nodes.

- `Cursor.Passes`: the places that a cursor passes, and where it is behind them.
- `Cursor.places`: the places of a tree, by recursion.
- `Cursor.passes_places`, `Cursor.walk_eq_places`: a cursor passes these places.
- `Cursor.Reached`: the places that steps down from a place lead to.
- `Cursor.mem_places`: these are the places that are listed.
- `Node.Lies`: a node of a tree and its ancestors, without a cursor.
- `leafNode`, `branchNode`: nodes by their kind, place and children.
-/

namespace CodeAtlas

/-- What holds of a node if it holds of its children holds of every node. -/
@[elab_as_elim]
theorem Node.induction {motive : Node → Prop}
    (mk : ∀ info children, (∀ c ∈ children, motive c) → motive (.mk info children)) (n : Node) :
    motive n :=
  Node.rec (motive_1 := motive) (motive_2 := fun children => ∀ c ∈ children, motive c) mk
    (fun _ h => absurd h List.not_mem_nil)
    (fun _ _ hfirst hrest c hc => (List.mem_cons.1 hc).elim (fun h => h ▸ hfirst) (hrest c)) n

namespace Cursor

/-! ## Loops -/

/-- `Passes move c passed last`: a cursor that starts at `c` and goes on by `move` passes the places
`passed`. Behind them it is at `last`, or it has come to its end. -/
inductive Passes (move : Cursor → Option Cursor) :
    Cursor → List Cursor → Option Cursor → Prop where
  | single {c : Cursor} {last : Option Cursor} : move c = last → Passes move c [c] last
  | step {c next : Cursor} {passed : List Cursor} {last : Option Cursor} :
      move c = some next → Passes move next passed last → Passes move c (c :: passed) last

section Passing

variable {move : Cursor → Option Cursor} {c next : Cursor} {passed more : List Cursor}
  {last : Option Cursor}

/-- One way after another. -/
theorem Passes.append (h : Passes move c passed (some next)) (h' : Passes move next more last) :
    Passes move c (passed ++ more) last := by
  generalize hend : some next = middle at h
  induction h with
  | single hmove => exact .step (hmove.trans hend.symm) h'
  | step hmove _ ih => exact .step hmove (ih hend)

/-- A walk that may be long enough passes all places up to the end. -/
theorem Passes.walk_eq (h : Passes move c passed none) {count : Nat}
    (hcount : passed.length ≤ count) : walk move count c = passed := by
  generalize hend : none = last at h
  induction h generalizing count with
  | single hmove =>
    obtain ⟨count, rfl⟩ : ∃ n, count = n + 1 := ⟨count - 1, by simp at hcount; omega⟩
    rw [walk, hmove, ← hend]
  | step hmove _ ih =>
    obtain ⟨count, rfl⟩ : ∃ n, count = n + 1 := ⟨count - 1, by simp at hcount; omega⟩
    rw [walk, hmove]
    exact congrArg (_ :: ·) (ih (by simpa using hcount) hend)

end Passing

/-- To the next node, but only below nodes that are entered. -/
def advance? (enters : Node → Bool) (c : Cursor) : Option Cursor :=
  if enters c.node then c.next? else c.past?

mutual

/-- The places at and below a node, parents before children. -/
def places (enters : Node → Bool) (above : List Frame) : Node → List Cursor
  | .mk info children =>
    ⟨.mk info children, above⟩ ::
      if enters (.mk info children) then
        placesAmong enters (.mk info children) above children
      else []

def placesAmong (enters : Node → Bool) (parent : Node) (above : List Frame) :
    List Node → List Cursor
  | [] => []
  | child :: right =>
    places enters (⟨parent, right⟩ :: above) child ++ placesAmong enters parent above right

end

variable {enters : Node → Bool}

/-- A place among children is at or below one of them, with the others to its left and right. -/
theorem mem_placesAmong {parent : Node} {above : List Frame} {children : List Node} {c : Cursor} :
    c ∈ placesAmong enters parent above children ↔ ∃ left child right,
      children = left ++ child :: right ∧ c ∈ places enters (⟨parent, right⟩ :: above) child := by
  induction children with
  | nil => simp [placesAmong]
  | cons first rest ih =>
    rw [placesAmong, List.mem_append, ih]
    constructor
    · rintro (hfirst | ⟨left, child, right, rfl, hchild⟩)
      · exact ⟨[], first, rest, rfl, hfirst⟩
      · exact ⟨first :: left, child, right, rfl, hchild⟩
    · rintro ⟨left, child, right, hsplit, hchild⟩
      cases left with
      | nil =>
        obtain ⟨rfl, rfl⟩ := List.cons.inj hsplit
        exact .inl hchild
      | cons skipped left =>
        obtain ⟨rfl, rfl⟩ := List.cons.inj hsplit
        exact .inr ⟨left, child, right, rfl, hchild⟩

/-- The children of a node are passed from left to right, if each of them is passed. -/
theorem passes_placesAmong {parent child : Node} {above : List Frame} {right : List Node}
    (h : ∀ n ∈ child :: right, ∀ above,
      Passes (advance? enters) ⟨n, above⟩ (places enters above n) (climb? n above)) :
    Passes (advance? enters) ⟨child, ⟨parent, right⟩ :: above⟩
      (placesAmong enters parent above (child :: right)) (climb? parent above) := by
  induction right generalizing child with
  | nil =>
    -- Behind the last child the way goes on from the parent.
    have hchild := h child (by simp) (⟨parent, []⟩ :: above)
    rw [placesAmong, placesAmong, List.append_nil]
    exact hchild
  | cons sibling right ih =>
    have hchild := h child (by simp) (⟨parent, sibling :: right⟩ :: above)
    have hsiblings := ih fun n hn => h n (List.mem_cons_of_mem _ hn)
    rw [placesAmong]
    exact hchild.append hsiblings

/-- A cursor passes the places at and below a node, and then goes on to the right of the node or of
the nearest ancestor that has something to its right. -/
theorem passes_places (above : List Frame) (n : Node) :
    Passes (advance? enters) ⟨n, above⟩ (places enters above n) (climb? n above) := by
  -- By induction on the node, for all frames above it: a child is passed below further frames.
  induction n using Node.induction generalizing above with
  | mk info children ih =>
    rw [places]
    cases henter : enters (.mk info children) with
    | false => exact .single (by simp [advance?, henter, past?])
    | true =>
      cases children with
      | nil => exact .single (by simp [advance?, henter, next?, firstChild?, Node.children, past?])
      | cons child right =>
        refine .step ?_ (passes_placesAmong fun n hn above => ih n hn above)
        simp [advance?, henter, next?, firstChild?, Node.children]

theorem length_placesAmong_le {parent : Node} {above : List Frame} {children : List Node}
    (h : ∀ n ∈ children, ∀ above, (places enters above n).length ≤ n.size) :
    (placesAmong enters parent above children).length ≤ Node.sizes children := by
  induction children with
  | nil => simp [placesAmong]
  | cons child right ih =>
    have hchild := h child (by simp) (⟨parent, right⟩ :: above)
    have hright := ih fun n hn => h n (List.mem_cons_of_mem _ hn)
    rw [placesAmong, List.length_append, Node.sizes]
    omega

/-- There are no more places than nodes. -/
theorem length_places_le (above : List Frame) (n : Node) :
    (places enters above n).length ≤ n.size := by
  induction n using Node.induction generalizing above with
  | mk info children ih =>
    have hchildren : (placesAmong enters (.mk info children) above children).length
        ≤ Node.sizes children := length_placesAmong_le ih
    rw [places, List.length_cons, Node.size]
    split
    · omega
    · simp

/-- From the root of a tree a cursor passes the places of the tree, and comes to its end. -/
theorem passes_root (enters : Node → Bool) (root : Node) :
    Passes (advance? enters) (ofRoot root) (places enters [] root) none :=
  passes_places [] root

/-- A walk with as many moves as there are nodes passes all places. -/
theorem walk_eq_places (enters : Node → Bool) (root : Node) :
    walk (advance? enters) root.size (ofRoot root) = places enters [] root :=
  (passes_root enters root).walk_eq (length_places_le [] root)

/-! ## Steps down -/

/-- The places that steps from a node that is entered to one of its children lead to. -/
inductive Reached (enters : Node → Bool) (start : Cursor) : Cursor → Prop where
  | start : Reached enters start start
  | child {c : Cursor} {left right : List Node} {child : Node} :
      Reached enters start c → enters c.node = true → c.node.children = left ++ child :: right →
        Reached enters start ⟨child, ⟨c.node, right⟩ :: c.frames⟩

/-- What is listed below a place that is reached is reached as well. -/
theorem Reached.of_mem_places {start c : Cursor} {n : Node} {above : List Frame}
    (h : Reached enters start ⟨n, above⟩) (hc : c ∈ places enters above n) :
    Reached enters start c := by
  induction n using Node.induction generalizing above with
  | mk info children ih =>
    rw [places, List.mem_cons] at hc
    rcases hc with rfl | hc
    · exact h
    · split at hc
      · rename_i henter
        obtain ⟨left, child, right, hsplit, hchild⟩ := mem_placesAmong.1 hc
        have hmem : child ∈ children := hsplit ▸ by simp
        exact ih child hmem (h.child henter hsplit) hchild
      · simp at hc

theorem mem_places_self (above : List Frame) (n : Node) : ⟨n, above⟩ ∈ places enters above n := by
  obtain ⟨info, children⟩ := n
  simp [places]

/-- With a node that is entered its children are listed. -/
theorem mem_places_child {c : Cursor} {n : Node} {above : List Frame} {left right : List Node}
    {child : Node} (hc : c ∈ places enters above n) (henter : enters c.node = true)
    (hsplit : c.node.children = left ++ child :: right) :
    ⟨child, ⟨c.node, right⟩ :: c.frames⟩ ∈ places enters above n := by
  induction n using Node.induction generalizing above with
  | mk info children ih =>
    rw [places, List.mem_cons] at hc ⊢
    right
    rcases hc with rfl | hc
    · rw [if_pos henter]
      exact mem_placesAmong.2 ⟨left, child, _, hsplit, mem_places_self _ child⟩
    · split at hc
      · rename_i houter
        obtain ⟨before, inner, behind, hchildren, hinner⟩ := mem_placesAmong.1 hc
        have hmem : inner ∈ children := hchildren ▸ by simp
        rw [if_pos houter]
        exact mem_placesAmong.2 ⟨before, inner, behind, hchildren, ih inner hmem hinner⟩
      · simp at hc

/-- The places that are listed are those that steps down lead to. -/
theorem mem_places {c : Cursor} {n : Node} {above : List Frame} :
    c ∈ places enters above n ↔ Reached enters ⟨n, above⟩ c := by
  constructor
  · exact Reached.start.of_mem_places
  · intro h
    induction h with
    | start => exact mem_places_self above n
    | child _ henter hsplit ih => exact mem_places_child ih henter hsplit

end Cursor

/-! ## Nodes in a tree -/

namespace Node

theorem mem_preorder_self (n : Node) : n ∈ n.preorder := by
  obtain ⟨info, children⟩ := n
  simp [preorder]

/-- A node is in some trees iff it is in one of them. -/
theorem mem_preorders {n : Node} {children : List Node} :
    n ∈ preorders children ↔ ∃ child ∈ children, n ∈ child.preorder := by
  induction children with
  | nil => simp [preorders]
  | cons child right ih => simp [preorders, ih]

/-- What is in a child is in the node. -/
theorem preorder_subset_of_mem_children {n child : Node} (h : child ∈ n.children) :
    child.preorder ⊆ n.preorder := by
  obtain ⟨info, children⟩ := n
  intro m hm
  rw [preorder]
  exact List.mem_cons_of_mem _ (mem_preorders.2 ⟨child, h, hm⟩)

/-- The nodes below a node of a tree are nodes of the tree. -/
theorem preorder_subset {root n : Node} (h : n ∈ root.preorder) :
    n.preorder ⊆ root.preorder := by
  induction root using Node.induction with
  | mk info children ih =>
    rw [preorder, List.mem_cons, mem_preorders] at h
    rcases h with rfl | ⟨child, hchild, h⟩
    · exact List.Subset.refl _
    · exact List.Subset.trans (ih child hchild h) (preorder_subset_of_mem_children hchild)

end Node

/-! ## Ancestors -/

/-- `root.Lies above n`: the node `n` is in the tree `root`, and `above` are its ancestors, the
nearest one first. -/
inductive Node.Lies (root : Node) : List Node → Node → Prop where
  | root : Lies root [] root
  | child {above : List Node} {n child : Node} :
      Lies root above n → child ∈ n.children → Lies root (n :: above) child

namespace Cursor

variable {enters : Node → Bool} {root : Node}

/-- Where steps lead from a root lies in the tree, and all nodes above are entered. -/
theorem Reached.lies {c : Cursor} (h : Reached enters (ofRoot root) c) :
    root.Lies c.ancestors c.node ∧ ∀ a ∈ c.ancestors, enters a = true := by
  induction h with
  | start => exact ⟨.root, by simp [ofRoot, ancestors]⟩
  | @child c left right child _ henter hsplit ih =>
    have hmem : child ∈ c.node.children := hsplit ▸ by simp
    exact ⟨ih.1.child hmem, List.forall_mem_cons.2 ⟨henter, ih.2⟩⟩

/-- A node is listed with its ancestors, if all of them are entered. -/
theorem exists_mem_places_iff {above : List Node} {n : Node} :
    (∃ c ∈ places enters [] root, c.ancestors = above ∧ c.node = n) ↔
      root.Lies above n ∧ ∀ a ∈ above, enters a = true := by
  constructor
  · rintro ⟨c, hc, rfl, rfl⟩
    exact (mem_places.1 hc).lies
  · rintro ⟨hlies, henter⟩
    induction hlies with
    | root => exact ⟨ofRoot root, mem_places_self [] root, rfl, rfl⟩
    | child _ hchild ih =>
      obtain ⟨hparent, habove⟩ := List.forall_mem_cons.1 henter
      obtain ⟨c, hc, rfl, rfl⟩ := ih habove
      obtain ⟨left, right, hsplit⟩ := List.append_of_mem hchild
      exact ⟨_, mem_places_child hc hparent hsplit, rfl, rfl⟩

end Cursor

/-! ## Nodes by their parts -/

def leafNode (kind : Kind) (start stop : Position) : Node :=
  .mk ⟨kind, false, kind == .error, start, stop, []⟩ []

def branchNode (kind : Kind) (start stop : Position) (roles : List (Field × Nat))
    (children : List Node) : Node :=
  .mk ⟨kind, false, false, start, stop, roles⟩ children

end CodeAtlas
