import Mathlib.Data.List.Basic
import CodeAtlas.Ignore.Filter
import CodeAtlas.Proofs.ScriptNames

/-!
# Paths below a root

What a filter sees of a path that is joined to a root is told by the path alone, whichever root it
is.

- `Location.IsNormal`: the names of a location are neither idle nor lead to a parent.
- `Path.resolve_ofLocation`: the path of such a location stands for it.
- `Path.names_join_of_relative`: the names of a joined path are those of both paths.
- `Path.pieces_join`: the pieces of a joined path are those of the root and those of the path.
- `Path.fileName?_join`, `Path.below_join`, `Gitignore.localText_join`: the last name, the rest
  below the root, and the text that the rules of an ignore file see.
- `Path.join_joinWith`: the path of a place below a root is joined from its names.
-/

namespace CodeAtlas

/-- The names of a location as the path of a normal form spells them. -/
def Location.IsNormal (l : Location) : Prop :=
  ∀ name ∈ l, Path.isIdle name = false ∧ name ≠ Path.parentName ∧ '/' ∉ name

instance (l : Location) : Decidable (Location.IsNormal l) :=
  inferInstanceAs (Decidable (∀ name ∈ l, _))

theorem Name.IsProper.isNormal {names : List Name} (h : ∀ name ∈ names, name.IsProper) :
    Location.IsNormal names :=
  fun name hname => ⟨(h name hname).not_idle, (h name hname).ne_parent, (h name hname).2.2.1⟩

/-- Parts and more parts that are joined. -/
theorem joinWith_append {α : Type} {separator : α} {parts more : List (List α)}
    (hparts : parts ≠ []) (hmore : more ≠ []) :
    joinWith separator (parts ++ more)
      = joinWith separator parts ++ separator :: joinWith separator more := by
  induction parts with
  | nil => exact absurd rfl hparts
  | cons part rest ih =>
    cases rest with
    | nil =>
      cases more with
      | nil => exact absurd rfl hmore
      | cons first others => rfl
    | cons next rest =>
      have hrest := ih (by simp)
      simp only [List.cons_append, joinWith] at hrest ⊢
      simp [hrest]

namespace Location.IsNormal

variable {l : Location}

theorem no_slash (h : IsNormal l) : ∀ name ∈ l, ∀ c ∈ name, Path.isSlash c = false := by
  intro name hname c hc
  have hne : c ≠ '/' := fun heq => (h name hname).2.2 (heq ▸ hc)
  simpa [Path.isSlash] using hne

theorem filter_idle (h : IsNormal l) : l.filter (!Path.isIdle ·) = l := by
  rw [List.filter_eq_self]
  intro name hname
  simp [(h name hname).1]

/-- Names that are joined by slashes are the pieces between the slashes. -/
theorem pieces_joinWith (h : IsNormal l) (hne : l ≠ []) :
    (Path.mk (joinWith '/' l)).pieces = l :=
  splitWhere_joinWith Path.isSlash_slash hne h.no_slash

/-- The names of a path are those that it was joined from. -/
theorem names_joinWith (h : IsNormal l) (hne : l ≠ []) : (Path.mk (joinWith '/' l)).names = l := by
  rw [Path.names, h.pieces_joinWith hne, h.filter_idle]

theorem isAbsolute_joinWith (h : IsNormal l) : (Path.mk (joinWith '/' l)).isAbsolute = false := by
  cases l with
  | nil => rfl
  | cons first rest =>
    obtain ⟨hidle, -, hslash⟩ := h first List.mem_cons_self
    cases first with
    | nil => simp [Path.isIdle] at hidle
    | cons c cs =>
      have hne : c ≠ '/' := fun heq => hslash (heq ▸ List.mem_cons_self)
      cases rest <;> simp [Path.isAbsolute, joinWith, hne]

/-- The path of a location ends with a slash only if it is the root of the file system. -/
theorem getLast?_ofLocation (h : IsNormal l) (hne : l ≠ []) :
    (Path.ofLocation l).text.getLast? ≠ some '/' := by
  obtain ⟨front, last, rfl⟩ := (List.eq_nil_or_concat l).resolve_left hne
  rw [List.concat_eq_append] at h ⊢
  obtain ⟨hidle, -, hslash⟩ := h last (by simp)
  have hlast : ∃ text, (Path.ofLocation (front ++ [last])).text = text ++ last := by
    cases front with
    | nil => exact ⟨['/'], rfl⟩
    | cons first rest =>
      refine ⟨'/' :: joinWith '/' (first :: rest) ++ ['/'], ?_⟩
      rw [Path.ofLocation, joinWith_append_singleton (by simp)]
      simp
  obtain ⟨text, htext⟩ := hlast
  have hfull : last ≠ [] := by
    rintro rfl
    simp [Path.isIdle] at hidle
  rw [htext, List.getLast?_append_of_ne_nil _ hfull]
  intro hbad
  exact hslash (List.mem_of_getLast? hbad)

end Location.IsNormal

namespace Path

open Location.IsNormal

variable {root : Location} {p q : Path}

/-! ## Paths of locations -/

theorem text_ofLocation_ne_nil (l : Location) : (ofLocation l).text ≠ [] := List.cons_ne_nil _ _

/-- The path of a location has its names for its pieces, behind the empty one in front of the first
slash. -/
theorem pieces_ofLocation (hroot : Location.IsNormal root) (hne : root ≠ []) :
    (ofLocation root).pieces = [] :: root := by
  rw [pieces, ofLocation, splitWhere_cons_separator isSlash isSlash_slash,
    splitWhere_joinWith isSlash_slash hne hroot.no_slash]

/-- The names of the path of a location are those of the location. -/
theorem names_ofLocation (hroot : Location.IsNormal root) : (ofLocation root).names = root := by
  by_cases hne : root = []
  · subst hne
    decide
  · rw [names, pieces_ofLocation hroot hne, List.filter_cons_of_neg (by simp [isIdle]),
      hroot.filter_idle]

/-! ## Joined paths -/

/-- The names in front of a slash and those behind it. -/
theorem names_append_slash (a b : List Char) :
    (Path.mk (a ++ '/' :: b)).names = (Path.mk a).names ++ (Path.mk b).names := by
  simp only [names, pieces]
  rw [splitWhere_append_separator isSlash isSlash_slash, List.filter_append]

/-- The names of a path that is joined to another one, be there a slash between them already or
not. -/
theorem names_join_of_relative (hq : q.isAbsolute = false) :
    (join p q).names = p.names ++ q.names := by
  by_cases hempty : p.text = []
  · have hp : p = ⟨[]⟩ := congrArg Path.mk hempty
    subst hp
    rw [join, if_neg (by simp [hq])]
    rfl
  · by_cases hslash : p.text.getLast? = some '/'
    · obtain ⟨front, hfront⟩ := List.getLast?_eq_some_iff.1 hslash
      have hp : p = ⟨front ++ ['/']⟩ := congrArg Path.mk hfront
      have htext : p.join q = ⟨front ++ '/' :: q.text⟩ := by
        rw [join, if_neg (by simp [hq]), if_pos (by simp [hslash]), hfront, List.append_assoc,
          List.singleton_append]
      rw [htext, hp, names_append_slash, names_append_slash]
      exact congrArg (· ++ q.names) (List.append_nil _).symm
    · rw [join, if_neg (by simp [hq]), if_neg (by simp [hempty, hslash]), names_append_slash]

theorem isAbsolute_join_of_relative (hp : p.text ≠ []) (hq : q.isAbsolute = false) :
    (join p q).isAbsolute = p.isAbsolute := by
  have htext : ∃ rest, (join p q).text = p.text ++ rest := by
    rw [join, if_neg (by simp [hq])]
    split
    · exact ⟨_, rfl⟩
    · exact ⟨_, rfl⟩
  obtain ⟨rest, hrest⟩ := htext
  rw [isAbsolute, hrest, List.head?_append_of_ne_nil _ hp, isAbsolute]

/-- The text of a path that is joined to a root. -/
theorem text_join (hroot : Location.IsNormal root) (hq : q.isAbsolute = false) :
    (join (ofLocation root) q).text = joinWith '/' ([] :: root) ++ '/' :: q.text := by
  cases root with
  | nil => simp [join, hq, ofLocation, joinWith]
  | cons first rest =>
    have hlast := hroot.getLast?_ofLocation (by simp)
    have hbetween : join (ofLocation (first :: rest)) q
        = ⟨(ofLocation (first :: rest)).text ++ '/' :: q.text⟩ := by
      simp [join, hq, hlast, isEmpty_text_ofLocation]
    rw [hbetween]
    rfl

/-- A relative path behind that of a location is absolute. -/
theorem isAbsolute_join (hq : q.isAbsolute = false) :
    (join (ofLocation root) q).isAbsolute = true := by
  rw [isAbsolute_join_of_relative (text_ofLocation_ne_nil root) hq, isAbsolute_ofLocation]

/-- The pieces of a path that is joined to a root, which comes behind an empty piece. -/
theorem pieces_join (hroot : Location.IsNormal root) (hq : q.isAbsolute = false) :
    (join (ofLocation root) q).pieces = [] :: root ++ q.pieces := by
  have hslash : ∀ name ∈ [] :: root, ∀ c ∈ name, isSlash c = false := by
    intro name hname
    rcases List.mem_cons.1 hname with rfl | hname
    · simp
    · exact hroot.no_slash name hname
  have hroots : splitWhere isSlash (joinWith '/' ([] :: root)) = [] :: root :=
    splitWhere_joinWith isSlash_slash (by simp) hslash
  rw [pieces, text_join hroot hq, splitWhere_append_separator isSlash isSlash_slash, hroots, pieces]

/-- The names of joined paths stand one behind the other. -/
theorem names_join (hroot : Location.IsNormal root) (hq : q.isAbsolute = false) :
    (join (ofLocation root) q).names = root ++ q.names := by
  rw [names_join_of_relative hq, names_ofLocation hroot]

/-- A path with a name has the same last name behind any root. -/
theorem fileName?_join (hroot : Location.IsNormal root) (hq : q.isAbsolute = false)
    (hne : q.names ≠ []) : (join (ofLocation root) q).fileName? = q.fileName? := by
  rw [fileName?, names_join hroot hq, List.getLast?_append_of_ne_nil _ hne, fileName?]

/-- The pieces behind those of the root are the rest. -/
theorem piecesAfter?_append (hroot : Location.IsNormal root) (rest : List Name) :
    piecesAfter? root (root ++ rest) = some rest := by
  induction root with
  | nil => simp [piecesAfter?]
  | cons first others ih =>
    have hothers : Location.IsNormal others :=
      fun name hname => hroot name (List.mem_cons_of_mem _ hname)
    have hidle := (hroot first List.mem_cons_self).1
    simp [piecesAfter?, hidle, ih hothers]

/-- Below the root remains the path, without what is idle at its ends. -/
theorem below_join (hroot : Location.IsNormal root) (hq : q.isAbsolute = false) :
    below root (join (ofLocation root) q) = ⟨joinWith '/' (trimIdle q.pieces)⟩ := by
  have hidle : isIdle [] = true := rfl
  have hafter : ∃ rest, piecesAfter? root ([] :: root ++ q.pieces) = some rest ∧
      trimIdle rest = trimIdle q.pieces := by
    cases root with
    | nil => exact ⟨_, rfl, by simp [trimIdle, hidle]⟩
    | cons first others =>
      refine ⟨q.pieces, ?_, rfl⟩
      rw [List.cons_append, piecesAfter?, if_pos hidle, piecesAfter?_append hroot]
  obtain ⟨rest, hrest, htrim⟩ := hafter
  rw [below, isAbsolute_join hq, if_pos rfl, pieces_join hroot hq, hrest]
  simp only [htrim]

/-- Names that do not lead to a parent lead further down. -/
theorem walkNames_append (hroot : Location.IsNormal root) (start : Location) :
    walkNames start root = start ++ root := by
  induction root generalizing start with
  | nil => simp [walkNames]
  | cons first rest ih =>
    have hrest : Location.IsNormal rest :=
      fun name hname => hroot name (List.mem_cons_of_mem _ hname)
    have hstep : step start first = start ++ [first] := by
      simp [step, (hroot first List.mem_cons_self).2.1]
    have hfurther := ih hrest (start ++ [first])
    rw [walkNames, List.foldl_cons, hstep, ← walkNames, hfurther, List.append_assoc,
      List.singleton_append]

/-- The path of a location stands for this location. -/
theorem resolve_ofLocation (hroot : Location.IsNormal root) (current : Location) :
    (ofLocation root).resolve current = root := by
  rw [resolve, isAbsolute_ofLocation, if_pos rfl, names_ofLocation hroot, walkNames_append hroot,
    List.nil_append]

/-- The path of a place below a root is joined from its names. -/
theorem join_joinWith (hroot : Location.IsNormal root) {names : List Name}
    (hnames : Location.IsNormal names) (hne : names ≠ []) :
    join (ofLocation root) ⟨joinWith '/' names⟩ = ofLocation (root ++ names) := by
  have htext := text_join hroot hnames.isAbsolute_joinWith
  have hall : joinWith '/' ([] :: (root ++ names)) = '/' :: joinWith '/' (root ++ names) := by
    cases root <;> cases names <;> first | exact absurd rfl hne | rfl
  have happend : joinWith '/' ([] :: root ++ names)
      = joinWith '/' ([] :: root) ++ '/' :: joinWith '/' names :=
    joinWith_append (by simp) hne
  rw [List.cons_append, hall] at happend
  have hsame : (join (ofLocation root) ⟨joinWith '/' names⟩).text
      = (ofLocation (root ++ names)).text := by rw [htext, ofLocation, happend]
  exact congrArg Path.mk hsame

end Path

namespace Gitignore

theorem dropStart_append (start rest : List Char) : dropStart start (start ++ rest) = rest := by
  simp [dropStart]

/-- The rules of an ignore file see the path without the root. -/
theorem localText_join {root : Location} (hroot : Location.IsNormal root) {q : Path}
    (hq : q.isAbsolute = false) : localText root (Path.join (.ofLocation root) q) = q.text := by
  have htext := Path.text_join hroot hq
  -- A relative path begins with no slash that could be taken away.
  have hrelative : dropStart ['/'] q.text = q.text := by
    have hhead : q.text.head? ≠ some '/' := by simpa [Path.isAbsolute] using hq
    cases hchars : q.text with
    | nil => rfl
    | cons c cs =>
      have hne : c ≠ '/' := by simpa [hchars] using hhead
      simp [dropStart, hne.symm]
  cases root with
  | nil =>
    have hroots : (Path.join (.ofLocation []) q).text = ['/'] ++ q.text := by
      simpa [joinWith] using htext
    have hdot : dropStart ['.', '/'] (['/'] ++ q.text) = ['/'] ++ q.text := by simp [dropStart]
    have hstart : (Path.ofLocation []).text = ['/'] := rfl
    simp only [localText, hroots, hdot, hstart, dropStart_append, hrelative]
    simp
  | cons first rest =>
    have hroots : (Path.join (.ofLocation (first :: rest)) q).text
        = (Path.ofLocation (first :: rest)).text ++ (['/'] ++ q.text) := htext
    have hdot : dropStart ['.', '/'] ((Path.ofLocation (first :: rest)).text ++ (['/'] ++ q.text))
        = (Path.ofLocation (first :: rest)).text ++ (['/'] ++ q.text) := by
      simp [dropStart, Path.ofLocation]
    simp only [localText, hroots, hdot, dropStart_append]
    simp [Path.ofLocation]

end Gitignore

end CodeAtlas
