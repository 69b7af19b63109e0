import Mathlib.Data.List.DropRight
import CodeAtlas.Outline.Extract
import CodeAtlas.Proofs.RouteLabels

/-!
# Methods with quoted keys

A key that is a string loses all quotes at its ends, of either sort, and not only its two
delimiters as the path of a route does. So the name of the method is the content of the string if no
quote stands at an end of the content.

- `IsBare`: no quote stands at an end of a text.
- `Node.exists_append_trimQuotes`, `Node.isBare_trimQuotes`: what is taken off, and what is left.
- `Cursor.HasQuotedKey`: a method of a class whose key is a string.
- `quotedMethod_name`: the name of such a method.
-/

namespace CodeAtlas

open Node (isQuote trimQuotes)

/-- No quote of either sort stands at an end of a text. -/
def IsBare (text : List Char) : Prop :=
  (∀ c, text.head? = some c → isQuote c = false) ∧ ∀ c, text.getLast? = some c → isQuote c = false

/-- A text is bare if there is nothing to take off, on either side. -/
theorem isBare_iff {text : List Char} :
    IsBare text ↔ text.dropWhile isQuote = text ∧ text.rdropWhile isQuote = text := by
  rw [List.rdropWhile_eq_self_iff]
  cases text with
  | nil => simp [IsBare]
  | cons c rest => simp [IsBare, List.getLast?_eq_some_getLast]

namespace Node

theorem trimQuotes_eq_rdropWhile (text : List Char) :
    trimQuotes text = (text.dropWhile isQuote).rdropWhile isQuote := rfl

/-- Only quotes are taken off, at both ends. -/
theorem exists_append_trimQuotes (text : List Char) :
    ∃ before behind, text = before ++ trimQuotes text ++ behind ∧
      (∀ c ∈ before, isQuote c = true) ∧ ∀ c ∈ behind, isQuote c = true := by
  refine ⟨text.takeWhile isQuote, (text.dropWhile isQuote).rtakeWhile isQuote, ?_, ?_, ?_⟩
  · rw [trimQuotes_eq_rdropWhile, List.append_assoc, List.rdropWhile_append_rtakeWhile,
      List.takeWhile_append_dropWhile]
  · exact fun c hc => List.mem_takeWhile_imp hc
  · exact fun c hc => List.mem_rtakeWhile_imp hc

/-- No quote is left at an end. -/
theorem isBare_trimQuotes (text : List Char) : IsBare (trimQuotes text) := by
  rw [isBare_iff, trimQuotes_eq_rdropWhile]
  refine ⟨?_, List.rdropWhile_idempotent _ _⟩
  -- What is left begins as the text does after the quotes at its start.
  obtain ⟨behind, hbehind⟩ := List.rdropWhile_prefix isQuote (text.dropWhile isQuote)
  cases hleft : (text.dropWhile isQuote).rdropWhile isQuote with
  | nil => rfl
  | cons c rest =>
    have hstart : text.dropWhile isQuote = c :: (rest ++ behind) := by
      rw [← hbehind, hleft, List.cons_append]
    have hc : isQuote c = false := by
      simpa [hstart] using List.head?_dropWhile_not isQuote text
    rw [List.dropWhile_cons_of_neg (by simp [hc])]

/-- A text stays as it is if no quote stands at an end. -/
theorem trimQuotes_eq_self_iff {text : List Char} : trimQuotes text = text ↔ IsBare text := by
  constructor
  · exact fun h => h ▸ isBare_trimQuotes text
  · intro h
    obtain ⟨hfront, hback⟩ := isBare_iff.1 h
    rw [trimQuotes_eq_rdropWhile, hfront, hback]

/-- The delimiters of a string are taken off with the quotes inside of them. -/
theorem trimQuotes_enclosed {q : Char} (hq : isQuote q = true) (inside : List Char) :
    trimQuotes (q :: (inside ++ [q])) = trimQuotes inside := by
  rw [trimQuotes_eq_rdropWhile, trimQuotes_eq_rdropWhile, List.dropWhile_cons_of_pos hq,
    List.dropWhile_append]
  split
  · next hnone =>
    rw [List.isEmpty_iff.1 hnone, List.dropWhile_cons_of_pos hq, List.dropWhile_nil]
  · rw [List.rdropWhile_concat_pos _ _ _ hq]

end Node

/-! ## Methods -/

/-- A method of a class whose key is a string with the delimiter `q` and some content. -/
structure Cursor.HasQuotedKey (src : Source) (c : Cursor) (q : Char) (content : List Char) :
    Prop where
  kind : c.node.kind = .methodDefinition
  body : ∃ body, c.parentNode? = some body ∧ body.kind = .classBody
  key : ∃ key, c.node.child? .name = some key ∧ key.kind = .string ∧
    key.text src = q :: (content ++ [q])
  delimiter : q = '\'' ∨ q = '"'

namespace Cursor.HasQuotedKey

variable {src : Source} {c : Cursor} {q : Char} {content : List Char}

/-- A key is delimited by one of the two quotes. -/
theorem isQuote_delimiter (h : c.HasQuotedKey src q content) : isQuote q = true := by
  rcases h.delimiter with rfl | rfl <;> decide

/-- A method with a quoted key is named by the content of the key, without the quotes at its ends.
-/
theorem declared?_eq (h : c.HasQuotedKey src q content) :
    c.declared? src = some (.method, trimQuotes content) := by
  obtain ⟨body, hparent, hbody⟩ := h.body
  obtain ⟨key, hkey, hstring, htext⟩ := h.key
  have hname : c.node.methodName? src = some (trimQuotes content) := by
    simp only [Node.methodName?, hkey, Option.bind_some, hstring, htext,
      Node.trimQuotes_enclosed h.isQuote_delimiter]
  simp [Cursor.declared?, h.kind, hparent, hbody, hname]

/-- The path of a route would lose the delimiters only. -/
theorem stripDelimiters_eq (h : c.HasQuotedKey src q content) :
    stripDelimiters ['\'', '"'] (q :: (content ++ [q])) = content := by
  refine stripDelimiters_enclosed ?_ content
  simpa using h.delimiter

end Cursor.HasQuotedKey

/-- The name of a method whose key is a string. It is the content without the quotes at its ends, so
it is the content, as the path of a route would be, just if no quote stands there. Methods with such
keys have the same name just if the contents are the same. -/
theorem quotedMethod_name {src : Source} {c : Cursor} {q : Char} {content : List Char}
    (h : c.HasQuotedKey src q content) :
    ∃ name, (∀ lines, (c.symbol? src lines).map (fun s => (s.kind, s.name))
        = some (.method, String.ofList name)) ∧
      (∃ before behind, content = before ++ name ++ behind ∧
        (∀ a ∈ before, isQuote a = true) ∧ ∀ a ∈ behind, isQuote a = true) ∧
      IsBare name ∧ (name = content ↔ IsBare content) ∧
      stripDelimiters ['\'', '"'] (q :: (content ++ [q])) = content ∧
      ∀ src' c' q' content', Cursor.HasQuotedKey src' c' q' content' → IsBare content →
        IsBare content' → (c'.declared? src' = c.declared? src ↔ content' = content) := by
  refine ⟨trimQuotes content, fun lines => ?_, Node.exists_append_trimQuotes content,
    Node.isBare_trimQuotes content, Node.trimQuotes_eq_self_iff, h.stripDelimiters_eq, ?_⟩
  · rw [Cursor.symbol?, h.declared?_eq]
    rfl
  · intro src' c' q' content' h' hbare hbare'
    rw [h.declared?_eq, h'.declared?_eq, Node.trimQuotes_eq_self_iff.2 hbare,
      Node.trimQuotes_eq_self_iff.2 hbare']
    simp

/-! ## A class with a single method -/

/-- A method behind `class A` and the opening brace, with a string for its key. -/
def stringMethod (stop : Position) : Node :=
  branchNode .methodDefinition 8 (stop + 4) [(.name, 0)] [
    leafNode .string 8 stop,
    branchNode (.other "formal_parameters") stop (stop + 2) [] [
      leafNode (.token "(") stop (stop + 1), leafNode (.token ")") (stop + 1) (stop + 2)],
    branchNode (.other "statement_block") (stop + 2) (stop + 4) [] [
      leafNode (.token "\x7b") (stop + 2) (stop + 3),
      leafNode (.token "\x7d") (stop + 3) (stop + 4)]]

def stringMethodPlace (stop : Position) : Cursor :=
  let closing := leafNode (.token "\x7d") (stop + 4) (stop + 5)
  ⟨stringMethod stop, [⟨branchNode .classBody 7 (stop + 5) []
    [leafNode (.token "\x7b") 7 8, stringMethod stop, closing], [closing]⟩]⟩

theorem hasQuotedKey_stringMethodPlace {src : Source} {stop : Position} {q : Char}
    {content : List Char} (hkey : src.sliceList 8 stop = q :: (content ++ [q]))
    (hq : q = '\'' ∨ q = '"') : (stringMethodPlace stop).HasQuotedKey src q content where
  kind := rfl
  body := ⟨_, rfl, rfl⟩
  key := ⟨_, rfl, rfl, hkey⟩
  delimiter := hq

/-- A quote within the content is kept. -/
theorem quotedMethod_name_bare :
    (stringMethodPlace 13).HasQuotedKey (.ofString "class A\x7b\"x'y\"()\x7b\x7d\x7d") '"'
      "x'y".toList ∧
    ((stringMethodPlace 13).symbol? (.ofString "class A\x7b\"x'y\"()\x7b\x7d\x7d") false).map
      (fun s => (s.kind, s.name)) = some (.method, "x'y") := by
  have h : (stringMethodPlace 13).HasQuotedKey (.ofString "class A\x7b\"x'y\"()\x7b\x7d\x7d") '"'
      "x'y".toList := hasQuotedKey_stringMethodPlace (by decide) (.inr rfl)
  have hbare : IsBare "x'y".toList := Node.trimQuotes_eq_self_iff.1 (by decide)
  obtain ⟨name, hname, -, -, hcontent, -⟩ := quotedMethod_name h
  rw [hcontent.2 hbare, String.ofList_toList] at hname
  exact ⟨h, hname false⟩

/-- A content in quotes of the other sort loses these too, and so does one that ends with an escaped
quote. So methods with different contents may have the same name. -/
theorem quotedMethod_name_quotes :
    (¬ ∀ src c q content, Cursor.HasQuotedKey src c q content →
      c.declared? src = some (.method, content)) ∧
    (stringMethodPlace 13).declared? (.ofString "class A\x7b'a\\''()\x7b\x7d\x7d")
      = some (.method, "a\\".toList) ∧
    ¬ ∀ src src' c c' q content content', Cursor.HasQuotedKey src c q content →
      Cursor.HasQuotedKey src' c' q content' → c.declared? src = c'.declared? src' →
        content = content' := by
  have hquoted : (stringMethodPlace 13).HasQuotedKey
      (.ofString "class A\x7b\"'a'\"()\x7b\x7d\x7d") '"' "'a'".toList :=
    hasQuotedKey_stringMethodPlace (by decide) (.inr rfl)
  have hplain : (stringMethodPlace 11).HasQuotedKey
      (.ofString "class A\x7b\"a\"()\x7b\x7d\x7d") '"' "a".toList :=
    hasQuotedKey_stringMethodPlace (by decide) (.inr rfl)
  refine ⟨fun hall => ?_, by decide, fun hall => ?_⟩
  · exact absurd (hall _ _ _ _ hquoted) (by decide)
  · exact absurd (hall _ _ _ _ _ _ _ hquoted hplain (by decide)) (by decide)

end CodeAtlas
