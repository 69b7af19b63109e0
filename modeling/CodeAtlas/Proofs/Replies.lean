import CodeAtlas.Proofs.Lines
import CodeAtlas.Proofs.RecordReading
import CodeAtlas.Proofs.Utf8

/-!
# Replies say what was found

The reply for a text holds the symbols of the text, as they are found everywhere else, or an error
if there is no language for the extension.

- `OutlineReply.Holds`, `OutlineReply.Refuses`: what a reply may be.
- `scanFile_encodeUtf8`: a file that holds the bytes of a text is read as the text.
- `outlineReply_faithful`: what a host is told, and that it can be read back.
-/

namespace CodeAtlas

namespace OutlineReply

structure Holds (r : OutlineReply) (symbols : List Symbol) : Prop where
  success : r.success = true
  error : r.error = none
  data : ∃ text, r.data = some text ∧
    readWhole (readList Symbol.read) text.toList = .ok symbols

structure Refuses (r : OutlineReply) : Prop where
  success : r.success = false
  data : r.data = none
  error : r.error.isSome = true

theorem holds_ofSymbols {symbols : List Symbol} (h : ∀ s ∈ symbols, s.line = none) :
    (ofSymbols symbols).Holds symbols where
  success := rfl
  error := rfl
  data := by
    refine ⟨_, rfl, ?_⟩
    rw [String.toList_ofList]
    exact (symbolList_reads fun s hs n hn => by simp [h s hs] at hn).readWhole .compact

theorem refuses_ofError (message : String) : (ofError message).Refuses := ⟨rfl, rfl, rfl⟩

end OutlineReply

/-- A file that holds the bytes of a text has the symbols of the text, if no mark stands in front of
it. -/
theorem scanFile_encodeUtf8 {fs : FileSystem} {current : Trail} {p : Path}
    {source extension : String} {language : Language}
    (hlanguage : Language.ofExtension? extension = some language)
    (hp : p.extension? = some extension.toList)
    (hread : fs.read current p = .ok (encodeUtf8 source.toList))
    (hmark : source.toList.head? ≠ some byteOrderMark) (c : ScanConfig)
    {outlined : List Symbol × FileStatus}
    (houtlined : extractSymbols (.ofString source) language c.outline = outlined) :
    ∃ f, scanFile fs current c p = .ok f ∧ f.symbols = outlined.1 := by
  have hpath : Language.ofPath? p = some language := by
    rw [Path.extension?, Option.bind_eq_some_iff] at hp
    obtain ⟨name, hname, hext⟩ := hp
    rw [Language.ofPath?, hname, Option.bind_some, Language.ofFileName?, hext, Option.bind_some,
      String.ofList_toList, hlanguage]
  have hbytes : outlineBytes c language (encodeUtf8 source.toList) = outlined := by
    rw [outlineBytes, decodeSource_encodeUtf8 hmark, ← houtlined, Source.ofString]
  -- The outline is a variable, so that no comparison goes into the reading of the text.
  obtain ⟨f, hscan, -, -, hparts⟩ := exists_scanFile_of_read hpath hread c
  rw [hbytes] at hparts
  exact ⟨f, hscan, congrArg Prod.fst hparts⟩

/-- The symbols of a text under the default settings, of which only leniency is chosen. -/
def symbolsByDefault (source : String) (language : Language) (lenient : Bool) : List Symbol :=
  (extractSymbols (.ofString source) language ({ lenient := lenient } : ScanConfig).outline).1

/-- By default lines are not asked for. As an equation of functions it is checked without any
reading of the text. -/
theorem symbolsByDefault_eq : symbolsByDefault = fun source language lenient =>
    (extractSymbols (.ofString source) language ⟨false, lenient⟩).1 := rfl

/-- By default symbols have no lines. -/
theorem line_of_mem_symbolsByDefault {source : String} {language : Language} {lenient : Bool}
    {s : Symbol} (hs : s ∈ symbolsByDefault source language lenient) : s.line = none := by
  rw [symbolsByDefault_eq] at hs
  exact (extractSymbols_lines _ language lenient).2.noLines s hs

/-- If there is a language for the extension, the reply holds the symbols of the text. -/
theorem outlineReply_of_language {source extension : String} {language : Language}
    (hlanguage : Language.ofExtension? extension = some language) (lenient : Bool) :
    outlineReply source extension lenient
      = .ofSymbols (symbolsByDefault source language lenient) := by
  rw [outlineReply, hlanguage, symbolsByDefault_eq]

/-- The reply for a text tells whether there is a language for the extension. If there is, it holds
the symbols of the text, without lines, and the same are found in a file that holds the text;
otherwise it holds an error. Every reply can be read back from its document. -/
theorem outlineReply_faithful (source extension : String) (lenient : Bool) :
    ((outlineReply source extension lenient).success = true
      ↔ (Language.ofExtension? extension).isSome = true) ∧
    (∀ language, Language.ofExtension? extension = some language →
      (outlineReply source extension lenient).Holds (symbolsByDefault source language lenient) ∧
      (∀ s ∈ symbolsByDefault source language lenient, s.line = none) ∧
      ∀ (fs : FileSystem) (current : Trail) (c : ScanConfig) (p : Path),
        c.lines = false → c.lenient = lenient → p.extension? = some extension.toList →
        fs.read current p = .ok (encodeUtf8 source.toList) →
        source.toList.head? ≠ some byteOrderMark →
        ∃ f, scanFile fs current c p = .ok f ∧
          f.symbols = symbolsByDefault source language lenient) ∧
    (Language.ofExtension? extension = none → (outlineReply source extension lenient).Refuses) ∧
    ∀ style, readWhole OutlineReply.read
        ((outlineReply source extension lenient).toJson.render style)
      = .ok (outlineReply source extension lenient) := by
  refine ⟨?_, fun language hlanguage => ⟨?_, ?_, ?_⟩, fun hnone => ?_, fun style => ?_⟩
  · rw [outlineReply]
    cases Language.ofExtension? extension with
    | none => simp [OutlineReply.ofError]
    | some language => simp [OutlineReply.ofSymbols]
  · rw [outlineReply_of_language hlanguage]
    exact OutlineReply.holds_ofSymbols fun s hs => line_of_mem_symbolsByDefault hs
  · exact fun s hs => line_of_mem_symbolsByDefault hs
  · intro fs current c p hlines hlenient hp hread hmark
    have hsame : c.outline = ⟨false, lenient⟩ := by rw [ScanConfig.outline, hlines, hlenient]
    obtain ⟨f, hscan, hsymbols⟩ := scanFile_encodeUtf8 hlanguage hp hread hmark c rfl
    exact ⟨f, hscan, by rw [hsymbols, symbolsByDefault_eq, hsame]⟩
  · rw [outlineReply, hnone]
    exact OutlineReply.refuses_ofError _
  · exact (OutlineReply.reads _).readWhole style

/-- A text with a single semicolon has the symbols of the script behind the link, and an extension
without a language is refused. -/
theorem outlineReply_faithful_smallProject :
    (∃ symbols, (outlineReply ";" "ts" false).Holds symbols ∧
      ∃ f, scanFile smallProject [] readingSettings linkedScript.path = .ok f ∧
        f.symbols = symbols) ∧
    (outlineReply "" "py" false).Refuses := by
  obtain ⟨-, hfound, -⟩ := outlineReply_faithful ";" "ts" false
  obtain ⟨-, -, hrefused, -⟩ := outlineReply_faithful "" "py" false
  obtain ⟨hholds, -, hfile⟩ := hfound .typeScript rfl
  have hread : smallProject.read [] linkedScript.path = .ok (encodeUtf8 ";".toList) := rfl
  have hscan := hfile smallProject [] readingSettings linkedScript.path rfl rfl (by decide) hread
    (by decide)
  exact ⟨⟨_, hholds, hscan⟩, hrefused rfl⟩

end CodeAtlas
