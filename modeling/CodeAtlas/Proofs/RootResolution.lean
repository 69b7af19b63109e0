import CodeAtlas.Proofs.Failures
import CodeAtlas.Proofs.LastPiece
import CodeAtlas.Proofs.Relocation

/-!
# The root of a scan is found from the text of its path

The path of a root is read name by name, without a look at the file system. What comes out is the
normal form of the path.

- `Path.Respelled`: other spellings of a path, with more or fewer slashes and single dots.
- `Path.Respelled.names_eq`: they have the same names.
- `Path.isNormal_resolve`: the names of the result are in normal form.
- `Path.resolve_join`: a path behind another one is read from where this one leads.
- `Path.Normalized`: what the root of a path is.
- `resolveRoot_normalized`: each path that is not empty has such a root.
-/

namespace CodeAtlas

namespace Path

/-! ## Spellings -/

/-- Other spellings of a path: a slash more or less, a single dot between slashes, at the end or in
front, and a slash at the end. A path does not become absolute that way, nor empty. -/
inductive Respelled : Path → Path → Prop where
  | refl (p : Path) : Respelled p p
  | slash (a b : List Char) : Respelled ⟨a ++ '/' :: '/' :: b⟩ ⟨a ++ '/' :: b⟩
  | dot (a b : List Char) : Respelled ⟨a ++ '/' :: '.' :: '/' :: b⟩ ⟨a ++ '/' :: b⟩
  | dotLast (a : List Char) : Respelled ⟨a ++ ['/', '.']⟩ ⟨a ++ ['/']⟩
  | dotFirst (b : List Char) : b ≠ [] → b.head? ≠ some '/' → Respelled ⟨'.' :: '/' :: b⟩ ⟨b⟩
  | slashLast (a : List Char) : a ≠ [] → Respelled ⟨a ++ ['/']⟩ ⟨a⟩
  | symm {p q : Path} : Respelled p q → Respelled q p
  | trans {p q r : Path} : Respelled p q → Respelled q r → Respelled p r

theorem names_slash (b : List Char) : (Path.mk ('/' :: b)).names = (Path.mk b).names :=
  names_append_slash [] b

theorem names_dot_slash (b : List Char) : (Path.mk ('.' :: '/' :: b)).names = (Path.mk b).names :=
  names_append_slash ['.'] b

namespace Respelled

variable {p q : Path}

/-- Respelled paths have the same names. -/
theorem names_eq (h : p.Respelled q) : p.names = q.names := by
  induction h with
  | refl p => rfl
  | slash a b => rw [names_append_slash, names_append_slash, names_slash]
  | dot a b => rw [names_append_slash, names_append_slash, names_dot_slash]
  | dotLast a =>
    rw [names_append_slash, names_append_slash]
    rfl
  | dotFirst b _ _ => exact names_dot_slash b
  | slashLast a _ => exact (names_append_slash a []).trans (List.append_nil _)
  | symm _ ih => exact ih.symm
  | trans _ _ ih ih' => exact ih.trans ih'

/-- Respelling keeps whether a path is absolute. -/
theorem isAbsolute_eq (h : p.Respelled q) : p.isAbsolute = q.isAbsolute := by
  induction h with
  | refl p => rfl
  | slash a b => cases a <;> rfl
  | dot a b => cases a <;> rfl
  | dotLast a => cases a <;> rfl
  | dotFirst b _ hhead => simpa [isAbsolute] using hhead
  | slashLast a hne =>
    cases a with
    | nil => exact absurd rfl hne
    | cons c rest => rfl
  | symm _ ih => exact ih.symm
  | trans _ _ ih ih' => exact ih.trans ih'

theorem text_eq_nil_iff (h : p.Respelled q) : p.text = [] ↔ q.text = [] := by
  induction h with
  | refl p => rfl
  | slash a b => simp
  | dot a b => simp
  | dotLast a => simp
  | dotFirst b hne _ => simp [hne]
  | slashLast a hne => simp [hne]
  | symm _ ih => exact ih.symm
  | trans _ _ ih ih' => exact ih.trans ih'

/-- All spellings of a path have the same root, or none. -/
theorem resolveRoot_eq (h : p.Respelled q) (current : Location) :
    resolveRoot current p = resolveRoot current q := by
  have hresolve : p.resolve current = q.resolve current := by
    rw [resolve, resolve, h.isAbsolute_eq, h.names_eq]
  have hempty : p.text.isEmpty = q.text.isEmpty := by
    rw [Bool.eq_iff_iff, List.isEmpty_iff, List.isEmpty_iff]
    exact h.text_eq_nil_iff
  rw [resolveRoot, resolveRoot, hempty, hresolve]

end Respelled

/-! ## Normal forms -/

/-- A name of a path is neither empty nor a single dot, and has no slash. -/
theorem of_mem_names {p : Path} {name : Name} (h : name ∈ p.names) :
    isIdle name = false ∧ '/' ∉ name := by
  rw [names, List.mem_filter] at h
  exact ⟨by simpa using h.2, slash_not_mem_of_mem_pieces h.1⟩

theorem isNormal_step {l : Location} (h : l.IsNormal) {name : Name} (hidle : isIdle name = false)
    (hslash : '/' ∉ name) : Location.IsNormal (step l name) := by
  by_cases hparent : name = parentName
  · rw [step, if_pos (by simp [hparent])]
    exact fun other hother => h other (List.dropLast_subset l hother)
  · rw [step, if_neg (by simp [hparent])]
    intro other hother
    rcases List.mem_append.1 hother with hother | hother
    · exact h other hother
    · obtain rfl := List.mem_singleton.1 hother
      exact ⟨hidle, hparent, hslash⟩

/-- Names lead from a normal location to a normal one. -/
theorem isNormal_walkNames {start : Location} (h : start.IsNormal) {names : List Name}
    (hnames : ∀ name ∈ names, isIdle name = false ∧ '/' ∉ name) :
    Location.IsNormal (walkNames start names) := by
  induction names generalizing start with
  | nil => exact h
  | cons first rest ih =>
    rw [List.forall_mem_cons] at hnames
    exact ih (isNormal_step h hnames.1.1 hnames.1.2) hnames.2

theorem isNormal_nil : Location.IsNormal [] := fun _ hname => absurd hname List.not_mem_nil

/-- Whatever the path is, what it stands for is in normal form. -/
theorem isNormal_resolve {current : Location} (h : current.IsNormal) (p : Path) :
    Location.IsNormal (p.resolve current) := by
  cases habsolute : p.isAbsolute with
  | true =>
    rw [resolve, if_pos habsolute]
    exact isNormal_walkNames isNormal_nil fun _ => of_mem_names
  | false =>
    rw [resolve, if_neg (by simp [habsolute])]
    exact isNormal_walkNames h fun _ => of_mem_names

/-! ## Joined paths -/

section Joining

variable {p q : Path}

theorem text_join_ne_nil (hp : p.text ≠ []) (hq : q.isAbsolute = false) :
    (p.join q).text ≠ [] := by
  rw [join, if_neg (by simp [hq])]
  split
  · simp [hp]
  · simp

/-- Walking along names and then further ones is walking along all of them. -/
theorem walkNames_walkNames (start : Location) (names more : List Name) :
    walkNames (walkNames start names) more = walkNames start (names ++ more) :=
  List.foldl_append.symm

/-- A path behind another one is read from where this one leads. -/
theorem resolve_join (hp : p.text ≠ []) (hq : q.isAbsolute = false) (current : Location) :
    (p.join q).resolve current = walkNames (p.resolve current) q.names := by
  rw [resolve, isAbsolute_join_of_relative hp hq, names_join_of_relative hq, resolve,
    walkNames_walkNames]

end Joining

/-! ## Roots -/

/-- A location is the normal form of a path that is seen from a current directory. -/
structure Normalized (current : Location) (p : Path) (l : Location) : Prop where
  /-- The path has a root, and this is the location. -/
  found : resolveRoot current p = .ok l
  /-- The path of the location begins with a slash. -/
  isAbsolute : (ofLocation l).isAbsolute = true
  /-- No name is empty, a single dot or a double dot, and none holds a slash. -/
  normal : ∀ name ∈ l, name ≠ [] ∧ name ≠ ['.'] ∧ name ≠ ['.', '.'] ∧ '/' ∉ name
  /-- Behind the first slash, the names are what stands between the slashes. -/
  pieces : l ≠ [] → (ofLocation l).pieces = [] :: l
  /-- Only the root of the file system ends with a slash. -/
  slashLast : (ofLocation l).text.getLast? = some '/' ↔ l = []
  /-- The location is its own normal form, seen from anywhere. -/
  fixed : ∀ here, resolveRoot here (ofLocation l) = .ok l
  /-- All spellings of the path have the same normal form. -/
  respelled : ∀ q, Respelled p q → resolveRoot current q = .ok l
  /-- The parent is one name less; at the root of the file system it is the root itself. -/
  parent : resolveRoot current (p.join ⟨['.', '.']⟩) = .ok l.dropLast
  /-- Paths may be joined to the path or to its normal form. -/
  joined : ∀ q, q.isAbsolute = false →
    resolveRoot current (p.join q) = resolveRoot current ((ofLocation l).join q)

/-- The location of a path is its normal form. -/
theorem normalized_resolve {current : Location} (h : current.IsNormal) {p : Path}
    (hp : p.text ≠ []) : Normalized current p (p.resolve current) := by
  have hnormal := isNormal_resolve h p
  have hfound := Scanner.resolveRoot_of_ne_nil hp current
  exact
    { found := hfound
      isAbsolute := isAbsolute_ofLocation _
      normal := by
        intro name hname
        obtain ⟨hidle, hparent, hslash⟩ := hnormal name hname
        simp only [isIdle, Bool.or_eq_false_iff, List.isEmpty_eq_false_iff, beq_eq_false_iff_ne]
          at hidle
        exact ⟨hidle.1, hidle.2, hparent, hslash⟩
      pieces := pieces_ofLocation hnormal
      slashLast := by
        constructor
        · intro hslash
          by_contra hne
          exact hnormal.getLast?_ofLocation hne hslash
        · intro hnil
          rw [hnil]
          rfl
      fixed := resolveRoot_ofLocation hnormal
      respelled := fun q hq => (hq.resolveRoot_eq current).symm.trans hfound
      parent := by
        rw [Scanner.resolveRoot_of_ne_nil (text_join_ne_nil hp rfl), resolve_join hp rfl]
        rfl
      joined := by
        intro q hq
        have hl := text_ofLocation_ne_nil (p.resolve current)
        rw [Scanner.resolveRoot_of_ne_nil (text_join_ne_nil hp hq), resolve_join hp hq,
          Scanner.resolveRoot_of_ne_nil (text_join_ne_nil hl hq), resolve_join hl hq,
          resolve_ofLocation hnormal] }

end Path

/-- Whatever the current directory is, each path that is not empty has a root, which is its normal
form, and the empty path has none. A relative path is read behind the current directory. A step up
from the root of the file system leads nowhere else. -/
theorem resolveRoot_normalized (cwd : Path) :
    (∀ p : Path, p.text ≠ [] → ∃ l, Path.Normalized (cwd.resolve []) p l) ∧
    resolveRoot (cwd.resolve []) ⟨[]⟩ = .error (.file .emptyPath) ∧
    (∀ (here : Location) (p : Path), cwd.isAbsolute = true → p.text ≠ [] → p.isAbsolute = false →
      resolveRoot (cwd.resolve []) p = resolveRoot here (cwd.join p)) ∧
    ∀ rest, resolveRoot (cwd.resolve []) ⟨['/', '.', '.', '/'] ++ rest⟩
      = resolveRoot (cwd.resolve []) ⟨'/' :: rest⟩ := by
  refine ⟨fun p hp => ?_, rfl, ?_, fun rest => ?_⟩
  · exact ⟨_, Path.normalized_resolve (Path.isNormal_resolve Path.isNormal_nil cwd) hp⟩
  · intro here p hcwd hp hrelative
    have hne : cwd.text ≠ [] := by
      intro hempty
      simp [Path.isAbsolute, hempty] at hcwd
    have hfrom : cwd.resolve here = cwd.resolve [] := by
      rw [Path.resolve, Path.resolve, if_pos hcwd, if_pos hcwd]
    rw [Scanner.resolveRoot_of_ne_nil hp, Scanner.resolveRoot_of_ne_nil (Path.text_join_ne_nil hne hrelative),
      Path.resolve_join hne hrelative, hfrom, Path.resolve, if_neg (by simp [hrelative])]
  · have hnames : (Path.mk (['/', '.', '.', '/'] ++ rest)).names
        = Path.parentName :: (Path.mk ('/' :: rest)).names :=
      (Path.names_append_slash ['/', '.', '.'] rest).trans
        (congrArg (Path.parentName :: ·) (Path.names_slash rest).symm)
    have hup : (Path.mk (['/', '.', '.', '/'] ++ rest)).text ≠ [] := List.cons_ne_nil _ _
    have hroot : (Path.mk ('/' :: rest)).text ≠ [] := List.cons_ne_nil _ _
    calc resolveRoot (cwd.resolve []) ⟨['/', '.', '.', '/'] ++ rest⟩
      _ = .ok (Path.walkNames [] (Path.mk (['/', '.', '.', '/'] ++ rest)).names) :=
          Scanner.resolveRoot_of_ne_nil hup _
      _ = .ok (Path.walkNames [] (Path.parentName :: (Path.mk ('/' :: rest)).names)) := by
          rw [hnames]
      _ = .ok (Path.walkNames [] (Path.mk ('/' :: rest)).names) := rfl
      _ = resolveRoot (cwd.resolve []) ⟨'/' :: rest⟩ :=
          (Scanner.resolveRoot_of_ne_nil hroot _).symm

def windingPath : Path := ⟨['/', '/', 'a', '/', '.', '.', '/', 'b', '/', '.', '/', 'c', '/']⟩

def plainPath : Path := ⟨['/', 'a', '/', '.', '.', '/', 'b', '/', 'c']⟩

/-- Both spellings have the same root, and a relative path may climb to the root of the file
system. -/
theorem resolveRoot_normalized_windingPath :
    windingPath.text ≠ [] ∧ (∃ l, Path.Normalized [['h']] windingPath l) ∧
    resolveRoot [['h']] plainPath = .ok [['b'], ['c']] ∧
    (Path.mk ['/', 'h']).isAbsolute = true ∧
    resolveRoot [['h']] ⟨['.', '.', '/', '.', '.', '/', 'x']⟩ = .ok [['x']] := by
  have hwinding : windingPath.text ≠ [] := List.cons_ne_nil _ _
  have hrespelled : windingPath.Respelled plainPath :=
    .trans (.slash [] ['a', '/', '.', '.', '/', 'b', '/', '.', '/', 'c', '/']) <|
      .trans (.dot ['/', 'a', '/', '.', '.', '/', 'b'] ['c', '/']) <|
        .slashLast plainPath.text (List.cons_ne_nil _ _)
  obtain ⟨hroot, -, hbehind, -⟩ := resolveRoot_normalized ⟨['/', 'h']⟩
  obtain ⟨l, hl⟩ := hroot windingPath hwinding
  have hfound : l = [['b'], ['c']] := Except.ok.inj (hl.found.symm.trans rfl)
  refine ⟨hwinding, ⟨l, hl⟩, ?_, rfl, ?_⟩
  · rw [← hfound]
    exact hl.respelled plainPath hrespelled
  · exact hbehind [] ⟨['.', '.', '/', '.', '.', '/', 'x']⟩ rfl (List.cons_ne_nil _ _) rfl

end CodeAtlas
