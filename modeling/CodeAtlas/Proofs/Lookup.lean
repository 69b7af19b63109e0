import CodeAtlas.Proofs.Addresses

/-!
# Looking up a path

A path that is joined of two is looked up by looking up the first, and the second from there. This
holds of every tree, also where siblings have one name or none.

- `TreeNode.follow_append`: names after others are followed from where these lead.
- `TreeNode.pathParts_append_slash`: a slash parts a path in two.
- `TreeNode.pathParts_eq_nil_iff`: only slashes have no part.
- `TreeNode.PathsCompose`: what this says of paths.
- `TreeNode.pathsCompose`: it holds of every tree.
-/

namespace CodeAtlas

namespace TreeNode

/-! ## Names -/

/-- Names after others are followed from where the others lead. -/
theorem follow_append (front rest : List (List Char)) (t : TreeNode) :
    t.follow (front ++ rest) = (t.follow front).bind (·.follow rest) := by
  induction front generalizing t with
  | nil => simp [follow]
  | cons part front ih =>
    cases t with
    | file f => rfl
    | directory name children =>
      cases hchild : children.find? (·.name.toList == part) with
      | none => simp [follow, hchild]
      | some c => simpa [follow, hchild] using ih c

/-- Nothing but no names is followed from a file. -/
theorem follow_file_eq_some_iff {f : FileNode} {parts : List (List Char)} {n : TreeNode} :
    (file f).follow parts = some n ↔ parts = [] ∧ n = file f := by
  cases parts with
  | nil => simp [follow, eq_comm]
  | cons part rest => simp [follow]

/-- The child of a name is the first one with it. -/
theorem follow_singleton (name : String) (children : List TreeNode) (part : List Char) :
    (directory name children).follow [part] = children.find? (·.name.toList == part) := by
  cases hchild : children.find? (·.name.toList == part) with
  | none => simp [follow, hchild]
  | some c => simp [follow, hchild]

/-! ## Parts of paths -/

/-- A slash parts a path in two: no part reaches across it. -/
theorem pathParts_append_slash (front rest : List Char) :
    pathParts (front ++ '/' :: rest) = pathParts front ++ pathParts rest := by
  rw [pathParts, List.splitOn_append_cons_self, List.filter_append, pathParts, pathParts]

@[simp] theorem pathParts_nil : pathParts [] = [] := by
  decide

@[simp] theorem pathParts_slash (path : List Char) : pathParts ('/' :: path) = pathParts path :=
  pathParts_append_slash [] path

/-- Slashes in front of a path do not count … -/
theorem pathParts_slashes_append (n : Nat) (path : List Char) :
    pathParts (List.replicate n '/' ++ path) = pathParts path := by
  induction n with
  | zero => rfl
  | succ n ih => rw [List.replicate_succ, List.cons_append, pathParts_slash, ih]

/-- … and neither do those behind it. -/
theorem pathParts_append_slashes (path : List Char) (n : Nat) :
    pathParts (path ++ List.replicate n '/') = pathParts path := by
  cases n with
  | zero => rw [List.replicate_zero, List.append_nil]
  | succ n =>
    have hnone : pathParts (List.replicate n '/') = [] := by
      simpa using pathParts_slashes_append n []
    rw [List.replicate_succ, pathParts_append_slash, hnone, List.append_nil]

/-- Without a slash, a path is its only part. -/
theorem pathParts_eq_singleton {part : List Char} :
    part ≠ [] → '/' ∉ part → pathParts part = [part] := by
  intro hfull hslash
  rw [pathParts, List.splitOn_eq_singleton hslash]
  simp [hfull]

/-- A path that begins with a character other than a slash has a part. -/
theorem pathParts_cons_ne_nil {c : Char} (path : List Char) :
    c ≠ '/' → pathParts (c :: path) ≠ [] := by
  intro hc
  -- The first part holds at least this character, whatever follows.
  cases hsplit : path.splitOn '/' with
  | nil => exact absurd hsplit (List.splitOn_ne_nil _ _)
  | cons part parts =>
    rw [pathParts, List.splitOn_cons_eq_if_modifyHead, if_neg (by simpa using hc), hsplit]
    simp

/-- Only slashes have no part. -/
theorem pathParts_eq_nil_iff {path : List Char} :
    pathParts path = [] ↔ path = List.replicate path.length '/' := by
  constructor
  · intro hnone
    induction path with
    | nil => rfl
    | cons c path ih =>
      by_cases hc : c = '/'
      · subst hc
        rw [pathParts_slash] at hnone
        rw [List.length_cons, List.replicate_succ, ← ih hnone]
      · exact absurd hnone (pathParts_cons_ne_nil path hc)
  · intro hslashes
    rw [hslashes]
    simpa using pathParts_slashes_append path.length []

/-! ## Paths -/

def slashes (n : Nat) : String := String.ofList (List.replicate n '/')

/-- What looking up paths in a tree, one behind the other, comes to. -/
structure PathsCompose (t : TreeNode) : Prop where
  /-- A path that is joined of two leads to where the second leads from where the first leads … -/
  join : ∀ p q, t.find? (p ++ "/" ++ q) = (t.find? p).bind (·.find? q)
  /-- … and nowhere, if the first leads nowhere. -/
  lost : ∀ p q, t.find? p = none → t.find? (p ++ "/" ++ q) = none
  /-- Slashes in front of a path and behind it do not count … -/
  around : ∀ before p after, t.find? (slashes before ++ p ++ slashes after) = t.find? p
  /-- … nor do further slashes between two paths. -/
  between : ∀ p n q, t.find? (p ++ "/" ++ slashes n ++ q) = t.find? (p ++ "/" ++ q)
  /-- Slashes alone lead to the tree itself. -/
  alone : ∀ n, t.find? (slashes n) = some t
  /-- Behind a file only slashes lead anywhere, namely to the file. -/
  file : ∀ p q f n, t.find? p = some (.file f) →
    (t.find? (p ++ "/" ++ q) = some n ↔ n = .file f ∧ ∃ k, q = slashes k)
  /-- In a directory a name leads to the first child of this name. -/
  first : ∀ p name children part, t.find? p = some (.directory name children) →
    part ≠ "" → '/' ∉ part.toList → t.find? (p ++ "/" ++ part) = children.find? (·.name == part)

/-- A path that is joined of two is looked up by looking up the first, and the second from there.
-/
theorem find?_join (t : TreeNode) (p q : String) :
    t.find? (p ++ "/" ++ q) = (t.find? p).bind (·.find? q) := by
  have hlist : (p ++ "/" ++ q).toList = p.toList ++ '/' :: q.toList := by
    simp [String.toList_append]
  calc t.find? (p ++ "/" ++ q)
    _ = t.follow (pathParts p.toList ++ pathParts q.toList) := by
        rw [find?, hlist, pathParts_append_slash]
    _ = (t.find? p).bind (·.find? q) := follow_append _ _ t

/-- Paths with the same parts lead to the same node. -/
theorem find?_congr (t : TreeNode) {p q : String} :
    pathParts p.toList = pathParts q.toList → t.find? p = t.find? q := by
  intro hparts
  rw [find?, find?, hparts]

/-- A path of slashes alone leads to the node itself. -/
theorem find?_eq_self {t : TreeNode} {path : String} :
    pathParts path.toList = [] → t.find? path = some t := by
  intro hnone
  rw [find?, hnone]
  simp [follow]

/-- A path without parts is one of slashes. -/
theorem eq_slashes_of_pathParts_eq_nil {path : String} :
    pathParts path.toList = [] → ∃ n, path = slashes n := by
  intro hnone
  refine ⟨path.toList.length, ?_⟩
  rw [slashes, ← pathParts_eq_nil_iff.1 hnone, String.ofList_toList]

/-- Looking up paths composes in every tree, also where several children of a directory have one
name, or no name at all. -/
theorem pathsCompose (t : TreeNode) : t.PathsCompose := by
  have halone : ∀ n, pathParts (slashes n).toList = [] := by
    intro n
    simpa [slashes] using pathParts_slashes_append n []
  refine
    { join := find?_join t
      lost := ?_
      around := ?_
      between := ?_
      alone := fun n => find?_eq_self (halone n)
      file := ?_
      first := ?_ }
  · intro p q hp
    rw [find?_join, hp, Option.bind_none]
  · intro before p after
    apply find?_congr
    rw [String.toList_append, String.toList_append, slashes, slashes, String.toList_ofList,
      String.toList_ofList, pathParts_append_slashes, pathParts_slashes_append]
  · intro p n q
    -- The slashes stand in front of the second path.
    have hrest : ∀ u : TreeNode, u.find? (slashes n ++ q) = u.find? q := by
      intro u
      apply find?_congr
      rw [String.toList_append, slashes, String.toList_ofList, pathParts_slashes_append]
    rw [String.append_assoc, find?_join, find?_join]
    simp only [hrest]
  · intro p q f n hp
    rw [find?_join, hp, Option.bind_some, find?, follow_file_eq_some_iff]
    constructor
    · rintro ⟨hparts, rfl⟩
      exact ⟨rfl, eq_slashes_of_pathParts_eq_nil hparts⟩
    · rintro ⟨rfl, k, rfl⟩
      exact ⟨halone k, rfl⟩
  · intro p name children part hp hfull hslash
    have hparts : pathParts part.toList = [part.toList] :=
      pathParts_eq_singleton (by simpa using hfull) hslash
    rw [find?_join, hp, Option.bind_some, find?, hparts, follow_singleton]
    congr 1
    funext c
    rw [Bool.eq_iff_iff, beq_iff_eq, beq_iff_eq, String.toList_inj]

/-- Of two directories of one name the first is entered, even if only the second one holds the name
that comes next. -/
example :
    (directory "r" [directory "a" [], directory "a" [directory "b" []]]).find? "/a//b/" = none := by
  decide

end TreeNode

end CodeAtlas
