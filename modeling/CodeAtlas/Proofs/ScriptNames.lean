import CodeAtlas.Scan.Walk

/-!
# Names and paths

The names that a directory may hold, the paths that are made of them, and the names of scripts.

- `Name.IsProper`: a name that a directory may hold.
- `Path.pieces_ofLocation_append`: the path of an entry ends with the name of the entry.
- `Language.Names`: a script name of a language, by its stem and its extension.
- `Language.ofPath?_ofLocation_append`: the language of a path is told by its last name.
-/

namespace CodeAtlas

def Name.IsProper (name : Name) : Prop :=
  Path.isIdle name = false ∧ name ≠ Path.parentName ∧ '/' ∉ name ∧ '\x00' ∉ name ∧
    (encodeUtf8 name).length ≤ FileSystem.maxNameBytes

instance (name : Name) : Decidable name.IsProper :=
  inferInstanceAs (Decidable (_ ∧ _))

namespace Name.IsProper

variable {name : Name}

theorem not_idle (h : name.IsProper) : Path.isIdle name = false := h.1

theorem ne_nil (h : name.IsProper) : name ≠ [] := by
  rintro rfl
  exact absurd h.not_idle (by decide)

theorem ne_parent (h : name.IsProper) : name ≠ Path.parentName := h.2.1

theorem no_slash (h : name.IsProper) : ∀ c ∈ name, Path.isSlash c = false := by
  intro c hc
  have hne : c ≠ '/' := fun heq => h.2.2.1 (heq ▸ hc)
  simpa [Path.isSlash] using hne

theorem no_zero (h : name.IsProper) : '\x00' ∉ name := h.2.2.2.1

theorem short (h : name.IsProper) : (encodeUtf8 name).length ≤ FileSystem.maxNameBytes :=
  h.2.2.2.2

end Name.IsProper

/-! ## Paths of locations -/

namespace Path

theorem isSlash_slash : isSlash '/' = true := by decide

/-- The pieces that lead to an entry of a location, up to its name. -/
def leadingPieces (l : Location) : List Name := if l = [] then [[]] else (ofLocation l).pieces

theorem text_ofLocation_append {l : Location} (hne : l ≠ []) (name : Name) :
    (ofLocation (l ++ [name])).text = (ofLocation l).text ++ '/' :: name := by
  simp [ofLocation, joinWith_append_singleton hne]

/-- The last piece of the path of an entry is the name of the entry. -/
theorem pieces_ofLocation_append (l : Location) {name : Name} (h : name.IsProper) :
    (ofLocation (l ++ [name])).pieces = leadingPieces l ++ [name] := by
  have hname : splitWhere isSlash name = [name] := splitWhere_eq_singleton isSlash h.no_slash
  cases l with
  | nil =>
    have hpieces := splitWhere_cons_separator isSlash isSlash_slash name
    simpa [pieces, ofLocation, joinWith, leadingPieces, hname] using hpieces
  | cons first rest =>
    have hne : first :: rest ≠ [] := by simp
    rw [pieces, text_ofLocation_append hne, splitWhere_append_separator isSlash isSlash_slash,
      hname, leadingPieces, if_neg hne, pieces]

/-- The last name of the path of a location is that of the location. -/
theorem fileName?_ofLocation_append (l : Location) {name : Name} (h : name.IsProper) :
    (ofLocation (l ++ [name])).fileName? = some name := by
  have hne : name ≠ parentName := h.ne_parent
  simp [fileName?, names, pieces_ofLocation_append l h, h.not_idle, hne]

theorem isAbsolute_ofLocation (l : Location) : (ofLocation l).isAbsolute = true := by
  simp [isAbsolute, ofLocation]

theorem isEmpty_text_ofLocation (l : Location) : (ofLocation l).text.isEmpty = false := by
  simp [ofLocation]

/-- The path of an entry of a location holds no zero, if neither the name nor the path of the
location does. -/
theorem zero_not_mem_text_ofLocation_append {l : Location} (hl : '\x00' ∉ (ofLocation l).text)
    {name : Name} (h : name.IsProper) : '\x00' ∉ (ofLocation (l ++ [name])).text := by
  have hname : '\x00' ∉ name := h.no_zero
  cases l with
  | nil => simpa [ofLocation, joinWith] using hname
  | cons first rest =>
    rw [text_ofLocation_append (by simp)]
    simp [hl, hname]

/-! ## Extensions -/

/-- Of the texts between the dots the last one is the extension, if the others are more than one
empty text. -/
theorem extensionOf?_of_split {name last : Name} {front : List Name}
    (h : splitWhere (· == '.') name = front ++ [last]) :
    extensionOf? name = if front = [] ∨ front = [[]] then none else some last := by
  cases front with
  | nil => simp [extensionOf?, h]
  | cons part parts =>
    have hlast : (part :: parts ++ [last]).getLast? = some last := List.getLast?_concat
    cases parts with
    -- One part in front of the last one: it is the stem, unless it is empty.
    | nil => cases part <;> simp [extensionOf?, h]
    | cons next parts =>
      simp only [List.cons_append] at h hlast
      simp [extensionOf?, h, hlast]

/-- An extension stands behind the last dot, and something stands in front of that dot. -/
theorem extensionOf?_eq_some {name extension : Name} :
    extensionOf? name = some extension ↔
      ∃ stem, stem ≠ [] ∧ '.' ∉ extension ∧ name = stem ++ '.' :: extension := by
  have hdot : ∀ c, (c == '.') = true → c = '.' := by simp
  constructor
  · intro h
    -- The last part is the extension, and those before it are the stem.
    rcases List.eq_nil_or_concat (splitWhere (· == '.') name) with hsplit | ⟨front, last, hsplit⟩
    · exact absurd hsplit (splitWhere_ne_nil _ _)
    · rw [List.concat_eq_append] at hsplit
      rw [extensionOf?_of_split hsplit] at h
      have hfront : ¬(front = [] ∨ front = [[]]) := fun hbad => by simp [hbad] at h
      have hlast : last = extension := by simpa [hfront] using h
      rw [not_or] at hfront
      have hname : name = joinWith '.' front ++ '.' :: last := by
        rw [← joinWith_append_singleton hfront.1, ← hsplit, joinWith_splitWhere hdot]
      have hnodot : '.' ∉ last := fun hmem => by
        have := forall_mem_splitWhere (· == '.') name last (by simp [hsplit]) '.' hmem
        simp at this
      have hstem : joinWith '.' front ≠ [] := by
        intro hnil
        match front, hfront, hnil with
        | [part], hfront, hnil => exact hfront.2 (by simpa [joinWith] using hnil)
        | _ :: _ :: _, _, hnil => simp [joinWith] at hnil
      exact ⟨_, hstem, hlast ▸ hnodot, hlast ▸ hname⟩
  · rintro ⟨stem, hstem, hext, rfl⟩
    -- The dot before the extension is the last one, so that the extension is one part.
    have hlast : splitWhere (· == '.') extension = [extension] :=
      splitWhere_eq_singleton _ fun c hc => by
        have hne : c ≠ '.' := fun heq => hext (heq ▸ hc)
        simpa using hne
    have hsplit : splitWhere (· == '.') (stem ++ '.' :: extension)
        = splitWhere (· == '.') stem ++ [extension] := by
      rw [splitWhere_append_separator (· == '.') (by decide), hlast]
    have hmore : splitWhere (· == '.') stem ≠ [[]] := by
      intro hempty
      have hjoin : joinWith '.' (splitWhere (· == '.') stem) = stem :=
        joinWith_splitWhere hdot stem
      rw [hempty] at hjoin
      exact hstem hjoin.symm
    simp [extensionOf?_of_split hsplit, splitWhere_ne_nil, hmore]

end Path

/-! ## Script names -/

namespace Language

/-- A script name of a language: a stem, a dot, and an extension of the language. -/
def Names (language : Language) (name : Name) : Prop :=
  ∃ stem extension : Name, stem ≠ [] ∧ name = stem ++ '.' :: extension ∧
    ofExtension? (String.ofList extension) = some language

/-- The extensions of scripts. -/
theorem mem_of_ofExtension? {extension : String} {language : Language}
    (h : ofExtension? extension = some language) : extension ∈ ["js", "jsx", "ts", "tsx"] := by
  unfold ofExtension? at h
  split at h <;> simp_all

theorem dot_not_mem_of_ofExtension? {extension : Name} {language : Language}
    (h : ofExtension? (String.ofList extension) = some language) : '.' ∉ extension := by
  have hknown := mem_of_ofExtension? h
  have hlist : extension ∈ ["js".toList, "jsx".toList, "ts".toList, "tsx".toList] := by
    simp only [List.mem_cons, List.not_mem_nil, or_false] at hknown ⊢
    rcases hknown with h | h | h | h <;> simp [← h]
  intro hdot
  simp only [List.mem_cons, List.not_mem_nil, or_false] at hlist
  rcases hlist with rfl | rfl | rfl | rfl <;> revert hdot <;> decide

/-- The language of a file is that whose script names hold its name. -/
theorem ofFileName?_eq_some {name : Name} {language : Language} :
    ofFileName? name = some language ↔ language.Names name := by
  simp only [ofFileName?, Option.bind_eq_some_iff, Path.extensionOf?_eq_some]
  constructor
  · rintro ⟨extension, ⟨stem, hstem, _, rfl⟩, hlanguage⟩
    exact ⟨stem, extension, hstem, rfl, hlanguage⟩
  · rintro ⟨stem, extension, hstem, rfl, hlanguage⟩
    exact ⟨extension, ⟨stem, hstem, dot_not_mem_of_ofExtension? hlanguage, rfl⟩, hlanguage⟩

/-- The language of a path is told by its last name. -/
theorem ofPath?_ofLocation_append (l : Location) {name : Name} (h : name.IsProper) :
    ofPath? (.ofLocation (l ++ [name])) = ofFileName? name := by
  simp [ofPath?, Path.fileName?_ofLocation_append l h]

end Language

end CodeAtlas
