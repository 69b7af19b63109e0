import CodeAtlas.Atlas.Record
import CodeAtlas.Outline.Ladder

/-!
# Replies to single texts

A host that holds a text and the extension of its file gets the symbols as a reply.

- `OutlineReply`: the symbols as a document, or what is wrong.
- `outlineReply`: the reply for a text.
-/

namespace CodeAtlas

structure OutlineReply where
  success : Bool
  /-- The symbols as a document. -/
  data : Option String
  /-- What is wrong. -/
  error : Option String
  deriving DecidableEq, Inhabited, Repr

namespace OutlineReply

def ofSymbols (symbols : List Symbol) : OutlineReply where
  success := true
  data := some (String.ofList ((symbolListJson symbols).render .compact))
  error := none

def ofError (message : String) : OutlineReply := ⟨false, none, some message⟩

def toJson (r : OutlineReply) : JsonValue :=
  .record [("success", .bool r.success), ("data", .ofOption .ofString r.data),
    ("error", .ofOption .ofString r.error)]

def fields : List (JsonField OutlineReply) := [
  fieldOf "success" readBool fun b r => { r with success := b },
  { fieldOf "data" (readOption readText) fun (t : Option String) (r : OutlineReply) =>
      { r with data := t } with
    optional := true },
  { fieldOf "error" (readOption readText) fun (t : Option String) (r : OutlineReply) =>
      { r with error := t } with
    optional := true }]

def read : JsonReader OutlineReply := readRecord fields ⟨false, none, none⟩

end OutlineReply

/-- The reply for the text of a file with the given extension. -/
def outlineReply (source extension : String) (lenient : Bool) : OutlineReply :=
  match Language.ofExtension? extension with
  | some language =>
    .ofSymbols (extractSymbols (.ofString source) language ⟨false, lenient⟩).1
  | none => .ofError s!"Unsupported extension: {extension}"

end CodeAtlas
