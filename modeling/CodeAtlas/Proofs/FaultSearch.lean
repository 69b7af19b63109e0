import CodeAtlas.Outline.Fault
import CodeAtlas.Proofs.Traversal

/-!
# The search for errors that count

The search looks at no node below an error, and at none below a node without errors. What it finds
is what a look at all nodes finds.

- `Node.MarksFaults`: a node is marked as faulty if there is an error in it.
- `Node.ShowsFault`: an error that counts, told by the node and its parent.
- `Cursor.isFatal_iff`: what the search asks of a node that is not below an error.
- `hasFatalErrors_iff`: which trees have an error that counts.
-/

namespace CodeAtlas

namespace Node

def isFault (n : Node) : Bool := n.isError || n.isMissing

/-- All nodes are marked as faulty in which there is an error or a node that was made up, and no
others. -/
def MarksFaults (root : Node) : Prop :=
  ∀ n ∈ root.preorder, (n.isFaulty = true ↔ ∃ m ∈ n.preorder, m.isFault = true)

instance (root : Node) : Decidable root.MarksFaults :=
  inferInstanceAs (Decidable (∀ n ∈ root.preorder, _))

def brackets : List Char := ['<', '>', '\x7b', '\x7d']

/-- An error that counts: a node that was made up, or an error which lacks an ampersand, holds a
bracket, has no parent, or has a parent that is no element. -/
def ShowsFault (src : Source) (parent : Option Node) (n : Node) : Prop :=
  n.isMissing = true ∨ n.isError = true ∧
    ('&' ∉ n.text src ∨ (∃ c ∈ n.text src, c ∈ brackets) ∨ parent = none ∨
      ∃ p, parent = some p ∧ p.kind ≠ .jsxElement ∧ p.kind ≠ .jsxFragment)

/-! ## Nodes in a tree -/

/-- What lies below a node lies below its ancestors too. -/
theorem Lies.preorder_subset {root n : Node} {above : List Node} (h : root.Lies above n) :
    n.preorder ⊆ root.preorder ∧ ∀ a ∈ above, n.preorder ⊆ a.preorder ∧ a ∈ root.preorder := by
  induction h with
  | root => exact ⟨List.Subset.refl _, by simp⟩
  | @child above n child _ hchild ih =>
    have hinner := preorder_subset_of_mem_children hchild
    refine ⟨List.Subset.trans hinner ih.1, List.forall_mem_cons.2 ⟨⟨hinner, ?_⟩, fun a ha => ?_⟩⟩
    · exact ih.1 n.mem_preorder_self
    · exact ⟨List.Subset.trans hinner (ih.2 a ha).1, (ih.2 a ha).2⟩

/-- All nodes around an error are marked as faulty, and so is the error. -/
theorem MarksFaults.isFaulty_of_lies {root n : Node} (h : root.MarksFaults) {above : List Node}
    (hlies : root.Lies above n) (hn : n.isFault = true) :
    root.isFaulty = true ∧ ∀ a ∈ above, a.isFaulty = true := by
  have hinside := hlies.preorder_subset
  have hmem : n ∈ n.preorder := n.mem_preorder_self
  refine ⟨(h root root.mem_preorder_self).2 ⟨n, hinside.1 hmem, hn⟩, fun a ha => ?_⟩
  exact (h a (hinside.2 a ha).2).2 ⟨n, (hinside.2 a ha).1 hmem, hn⟩

/-- Only errors and nodes that were made up show faults. -/
theorem ShowsFault.isFault {src : Source} {parent : Option Node} {n : Node}
    (h : n.ShowsFault src parent) : n.isFault = true := by
  rcases h with hmissing | ⟨herror, -⟩
  · simp [Node.isFault, hmissing]
  · simp [Node.isFault, herror]

end Node

namespace Cursor

/-! ## The search -/

def entersSuspect (n : Node) : Bool := !n.isError && n.isFaulty

theorem advance?_suspect : advance? entersSuspect = nextSuspect? := rfl

/-- If the parent is no error, it is where an error is at home. -/
theorem home?_eq_parentNode? {c : Cursor} (h : ∀ a ∈ c.ancestors, a.isError = false) :
    c.home? = c.parentNode? := by
  rw [home?, parentNode?]
  cases hancestors : c.ancestors with
  | nil => rfl
  | cons p above =>
    have hp : p.isError = false := h p (hancestors ▸ List.mem_cons_self)
    simp [hp]

/-- Of a node that is not below an error the search asks whether it shows an error that counts. -/
theorem isFatal_iff {src : Source} {c : Cursor} (h : ∀ a ∈ c.ancestors, a.isError = false) :
    c.isFatal src = true ↔ c.node.ShowsFault src c.ancestors.head? := by
  have hhome : c.home? = c.ancestors.head? := home?_eq_parentNode? h
  have hbrackets : "<>\x7b\x7d".toList = Node.brackets := rfl
  simp only [isFatal, isStrayAmpersand, hhome, hbrackets, Node.ShowsFault]
  cases c.ancestors.head? with
  | none => simp
  | some p => simp [or_assoc]

end Cursor

/-- The search looks at the places that it enters. -/
theorem hasFatalErrors_eq_any (tree : SyntaxTree) :
    hasFatalErrors tree = (tree.root.isFaulty &&
      (Cursor.places Cursor.entersSuspect [] tree.root).any (Cursor.isFatal tree.source)) := by
  rw [hasFatalErrors, ← Cursor.advance?_suspect, Cursor.walk_eq_places]

/-- Where faulty nodes are marked, the search ends, and it answers whether there is an error that
counts among all nodes that are not below an error. -/
theorem hasFatalErrors_iff {tree : SyntaxTree} (h : tree.root.MarksFaults) :
    (∃ places, Cursor.Passes Cursor.nextSuspect? (.ofRoot tree.root) places none ∧
      hasFatalErrors tree
        = (tree.root.isFaulty && places.any (Cursor.isFatal tree.source))) ∧
    (hasFatalErrors tree = true ↔ ∃ above n, tree.root.Lies above n ∧
      (∀ a ∈ above, a.isError = false) ∧ n.ShowsFault tree.source above.head?) := by
  refine ⟨⟨_, Cursor.passes_root Cursor.entersSuspect tree.root, hasFatalErrors_eq_any tree⟩, ?_⟩
  rw [hasFatalErrors_eq_any, Bool.and_eq_true, List.any_eq_true]
  constructor
  · rintro ⟨-, c, hc, hfatal⟩
    obtain ⟨hlies, hentered⟩ := Cursor.exists_mem_places_iff.1 ⟨c, hc, rfl, rfl⟩
    have hclean : ∀ a ∈ c.ancestors, a.isError = false := fun a ha => by
      simpa using (Bool.and_eq_true_iff.1 (hentered a ha)).1
    exact ⟨_, _, hlies, hclean, (Cursor.isFatal_iff hclean).1 hfatal⟩
  · rintro ⟨above, n, hlies, hclean, hshows⟩
    -- The error marks all nodes around it, so that none of them is passed over.
    obtain ⟨hroot, hmarked⟩ := h.isFaulty_of_lies hlies hshows.isFault
    have hentered : ∀ a ∈ above, Cursor.entersSuspect a = true := fun a ha => by
      simp [Cursor.entersSuspect, hclean a ha, hmarked a ha]
    obtain ⟨c, hc, rfl, rfl⟩ := Cursor.exists_mem_places_iff.2 ⟨hlies, hentered⟩
    exact ⟨hroot, c, hc, (Cursor.isFatal_iff hclean).2 hshows⟩

/-- An element with an ampersand in its text, and behind it a bracket that nothing belongs to. -/
def mixedTree : SyntaxTree where
  source := .ofString "&)"
  root := .mk ⟨.other "program", false, true, 0, 2, []⟩ [
    .mk ⟨.jsxElement, false, true, 0, 1, []⟩ [leafNode .error 0 1],
    leafNode .error 1 2]

/-- The ampersand is met first and does not count, but the bracket behind it does. -/
theorem hasFatalErrors_iff_mixedTree :
    mixedTree.root.MarksFaults ∧ hasFatalErrors mixedTree = true := by
  have hmarks : mixedTree.root.MarksFaults := by decide
  have hchild : leafNode .error 1 2 ∈ mixedTree.root.children :=
    List.mem_cons_of_mem _ List.mem_cons_self
  have hclean : ∀ a ∈ [mixedTree.root], a.isError = false := by decide
  have hshows : (leafNode .error 1 2).ShowsFault mixedTree.source (some mixedTree.root) :=
    .inr ⟨rfl, .inl (by decide)⟩
  exact ⟨hmarks, (hasFatalErrors_iff hmarks).2.2 ⟨_, _, .child .root hchild, hclean, hshows⟩⟩

end CodeAtlas
