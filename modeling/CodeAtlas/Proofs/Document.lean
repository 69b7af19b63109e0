import Mathlib.Data.List.Basic
import CodeAtlas.Atlas.Record
import CodeAtlas.Proofs.JsonLayout

/-!
# The document of a tree

The document of a project map holds its tree but for the languages and statuses of files, and
nothing else.

- `TreeNode.shown`: a tree without languages and statuses.
- `TreeNode.toJson_eq_iff`: trees have the same document if what is shown of them is the same.
- `ProjectMap.output_determines`: the text of a document determines what is shown of its tree.
-/

namespace CodeAtlas

/-! ## Symbols -/

/-- Different sorts of symbols have different names. -/
theorem SymbolKind.name_inj {k k' : SymbolKind} : k.name = k'.name ↔ k = k' := by
  constructor
  · intro h
    have hsome := ofName?_name k
    rw [h, ofName?_name] at hsome
    exact (Option.some.inj hsome).symm
  · rintro rfl
    rfl

theorem JsonValue.ofString_inj {s s' : String} : ofString s = ofString s' ↔ s = s' := by
  simp [ofString, String.toList_inj]

namespace Symbol

/-- A symbol is told by its document, also if it has no line. -/
theorem toJson_inj {s s' : Symbol} : s.toJson = s'.toJson ↔ s = s' := by
  constructor
  · intro h
    obtain ⟨kind, name, line⟩ := s
    obtain ⟨kind', name', line'⟩ := s'
    cases line <;> cases line' <;>
      simp_all [toJson, JsonValue.record, SymbolKind.toJson, JsonValue.ofString_inj,
        SymbolKind.name_inj]
  · rintro rfl
    rfl

/-- The document of a symbol has no number but a line, which is whole. -/
theorem whole_toJson (s : Symbol) : s.toJson.Whole := by
  obtain ⟨kind, name, line⟩ := s
  cases line <;>
    simp [toJson, JsonValue.record, SymbolKind.toJson, JsonValue.ofString, JsonValue.Whole,
      JsonValue.WholeMembers]

end Symbol

/-- Symbols can be told from their document. -/
theorem symbolListJson_inj {symbols symbols' : List Symbol} :
    symbolListJson symbols = symbolListJson symbols' ↔ symbols = symbols' := by
  have hinj : Function.Injective Symbol.toJson := fun _ _ h => Symbol.toJson_inj.1 h
  simp only [symbolListJson, JsonValue.array.injEq]
  exact (List.map_injective_iff.2 hinj).eq_iff

theorem wholeItems_map_toJson (symbols : List Symbol) :
    JsonValue.WholeItems (symbols.map Symbol.toJson) := by
  induction symbols with
  | nil => trivial
  | cons s rest ih => exact ⟨s.whole_toJson, ih⟩

/-! ## Trees -/

namespace TreeNode

mutual

/-- A tree without the languages and statuses of its files. -/
def shown : TreeNode → TreeNode
  | directory name children => directory name (shownAll children)
  | file f => file { f with language := .javaScript, status := .parsed }

def shownAll : List TreeNode → List TreeNode
  | [] => []
  | first :: rest => shown first :: shownAll rest

end

mutual

/-- Trees have the same document if what is shown of them is the same. -/
theorem toJson_eq_iff : ∀ t t' : TreeNode, t.toJson = t'.toJson ↔ t.shown = t'.shown
  | directory name children, directory name' children' => by
    have hchildren := toJsons_eq_iff children children'
    simp [toJson, shown, JsonValue.record, JsonValue.ofString_inj, hchildren]
  -- The value of the key `type` tells a directory from a file.
  | directory _ _, file _ => by
    simp [toJson, shown, JsonValue.record, JsonValue.ofString_inj]
  | file _, directory _ _ => by
    simp [toJson, shown, JsonValue.record, JsonValue.ofString_inj]
  | file f, file f' => by
    simp [toJson, shown, JsonValue.record, JsonValue.ofString_inj, symbolListJson_inj]

/-- Trees have the same documents iff the same is shown of them. -/
theorem toJsons_eq_iff : ∀ trees trees' : List TreeNode,
    toJsons trees = toJsons trees' ↔ shownAll trees = shownAll trees'
  | [], [] => by simp [toJsons, shownAll]
  | [], _ :: _ => by simp [toJsons, shownAll]
  | _ :: _, [] => by simp [toJsons, shownAll]
  | first :: rest, first' :: rest' => by
    have hfirst := toJson_eq_iff first first'
    have hrest := toJsons_eq_iff rest rest'
    simp [toJsons, shownAll, hfirst, hrest]

end

mutual

/-- The only numbers of a document are lines. -/
theorem whole_toJson : ∀ t : TreeNode, t.toJson.Whole
  | directory name children => by
    have hchildren := wholeItems_toJsons children
    simp [toJson, JsonValue.record, JsonValue.ofString, JsonValue.Whole, JsonValue.WholeMembers,
      hchildren]
  | file f => by
    have hsymbols := wholeItems_map_toJson f.symbols
    simp [toJson, JsonValue.record, JsonValue.ofString, symbolListJson, JsonValue.Whole,
      JsonValue.WholeMembers, hsymbols]

theorem wholeItems_toJsons : ∀ trees : List TreeNode, JsonValue.WholeItems (toJsons trees)
  | [] => trivial
  | first :: rest => ⟨whole_toJson first, wholeItems_toJsons rest⟩

end

end TreeNode

/-! ## Documents -/

namespace ProjectMap

theorem toList_output (m : ProjectMap) (style : JsonStyle) :
    (m.output style).toList = m.tree.toJson.render style := by
  rw [output, String.toList_ofList]

/-- In either style there is a document, and its text is one value, that of the tree. -/
theorem read_output (m : ProjectMap) (style : JsonStyle) :
    JsonValue.read (m.output style).toList = .ok m.tree.toJson := by
  rw [toList_output, JsonValue.read_render style m.tree.whole_toJson]

/-- The text of a document determines its value, in either style. -/
theorem toJson_eq_of_output {m m' : ProjectMap} {style : JsonStyle}
    (h : m.output style = m'.output style) : m.tree.toJson = m'.tree.toJson := by
  have hread := m.read_output style
  rw [h, m'.read_output style] at hread
  exact (Except.ok.inj hread).symm

/-- In either style the text of a document is one value, that of the tree. Two texts are the same if
and only if the trees are, but for languages and statuses. The styles differ only in blanks outside
of strings. -/
theorem output_determines (m m' : ProjectMap) (style : JsonStyle) :
    JsonValue.read (m.output style).toList = .ok m.tree.toJson ∧
      (m.output style = m'.output style ↔ m.tree.shown = m'.tree.shown) ∧
      dropBlanks (m.output .pretty).toList = (m.output .compact).toList := by
  refine ⟨m.read_output style, ?_, ?_⟩
  · rw [← TreeNode.toJson_eq_iff]
    refine ⟨toJson_eq_of_output, fun h => ?_⟩
    rw [output, output, h]
  · rw [toList_output, toList_output, JsonValue.dropBlanks_render .pretty m.tree.whole_toJson]

end ProjectMap

end CodeAtlas
