import CodeAtlas.Atlas.ProjectMap
import CodeAtlas.Decimal.Shortest
import CodeAtlas.Json.Reader
import CodeAtlas.Json.Value

/-!
# Records in JSON

How symbols, counts, metadata and trees are written in JSON, and how the records that are
exchanged are read.

- `Symbol.toJson`, `ScanStats.toJson`, `ScanMetadata.toJson`, `TreeNode.toJson`: writing.
- `Symbol.read`, `ScanStats.read`, `ScanMetadata.read`: reading.
- `ProjectMap.output`: the document of a project map.
-/

namespace CodeAtlas

def JsonValue.ofString (s : String) : JsonValue := .string s.toList

def JsonValue.ofOption {α : Type} (f : α → JsonValue) : Option α → JsonValue
  | some x => f x
  | none => .null

def JsonValue.record (members : List (String × JsonValue)) : JsonValue :=
  .object (members.map fun (key, value) => (key.toList, value))

def readNamed {α : Type} (ofName? : String → Option α) : JsonReader α :=
  readEnum fun text => ofName? (String.ofList text)

def readText : JsonReader String := fun cs =>
  (readString cs).map fun (text, rest) => (String.ofList text, rest)

def fieldOf {α β : Type} (name : String) (read : JsonReader β) (set : β → α → α) : JsonField α where
  name := name.toList
  read := fun cs => (read cs).map fun (x, rest) => (set x, rest)

/-! ## Names -/

namespace Language

def toJson (l : Language) : JsonValue := .ofString l.name

def read : JsonReader Language := readNamed ofName?

end Language

namespace SymbolKind

def toJson (k : SymbolKind) : JsonValue := .ofString k.name

def read : JsonReader SymbolKind := readNamed ofName?

end SymbolKind

namespace FileStatus

def toJson (f : FileStatus) : JsonValue := .ofString f.name

def read : JsonReader FileStatus := readNamed ofName?

end FileStatus

/-! ## Symbols -/

namespace Symbol

/-- A symbol without a line has no key for it. -/
def toJson (s : Symbol) : JsonValue :=
  .record <| [("kind", s.kind.toJson), ("name", .ofString s.name)] ++
    match s.line with
    | some n => [("line", .natural n)]
    | none => []

def fields : List (JsonField Symbol) := [
  fieldOf "kind" SymbolKind.read fun k s => { s with kind := k },
  fieldOf "name" readText fun n s => { s with name := n },
  { fieldOf "line" (readOption readNatural) fun (n : Option Nat) (s : Symbol) =>
      { s with line := n } with
    optional := true
    omissible := true }]

def read : JsonReader Symbol := readRecord fields ⟨.function, "", none⟩

end Symbol

def symbolListJson (symbols : List Symbol) : JsonValue := .array (symbols.map Symbol.toJson)

/-! ## Counts -/

/-- A count, with the key that it is written under. -/
structure Counter where
  name : String
  get : ScanStats → Nat
  set : Nat → ScanStats → ScanStats

namespace ScanStats

/-- All counts, in the order in which they are written. -/
def counters : List Counter := [
  ⟨"total_directories", totalDirectories, fun n s => { s with totalDirectories := n }⟩,
  ⟨"total_files", totalFiles, fun n s => { s with totalFiles := n }⟩,
  ⟨"total_symbols", totalSymbols, fun n s => { s with totalSymbols := n }⟩,
  ⟨"functions", functions, fun n s => { s with functions := n }⟩,
  ⟨"classes", classes, fun n s => { s with classes := n }⟩,
  ⟨"methods", methods, fun n s => { s with methods := n }⟩,
  ⟨"routes", routes, fun n s => { s with routes := n }⟩,
  ⟨"parsed_files", parsedFiles, fun n s => { s with parsedFiles := n }⟩,
  ⟨"recovered_files", recoveredFiles, fun n s => { s with recoveredFiles := n }⟩,
  ⟨"unparsable_files", unparsableFiles, fun n s => { s with unparsableFiles := n }⟩,
  ⟨"unreadable_files", unreadableFiles, fun n s => { s with unreadableFiles := n }⟩,
  ⟨"oversized_files", oversizedFiles, fun n s => { s with oversizedFiles := n }⟩,
  ⟨"walk_errors", walkErrors, fun n s => { s with walkErrors := n }⟩]

def toJson (s : ScanStats) : JsonValue :=
  .record (counters.map fun c => (c.name, .natural (c.get s)))

def read : JsonReader ScanStats :=
  readRecord (counters.map fun c => fieldOf c.name readNatural c.set) {}

end ScanStats

/-! ## Metadata -/

namespace ScanMetadata

/-- Numbers from a hundred-thousandth on and below ten to the sixteenth are written without an
exponent. -/
def layout : DecimalLayout := ⟨-5, 15⟩

/-- A floating point number; one that is not finite becomes null. -/
def floatJson (x : Float) : JsonValue := .ofOption .number (shortestText? layout x)

def toJson (d : ScanMetadata) : JsonValue :=
  .record [("scan_duration_ms", .natural d.scanDurationMs),
    ("files_per_second", floatJson d.filesPerSecond), ("timestamp", .ofString d.timestamp),
    ("tool_version", .ofString d.toolVersion)]

def read : JsonReader ScanMetadata :=
  readRecord [
    fieldOf "scan_duration_ms" readNatural fun n d => { d with scanDurationMs := n },
    fieldOf "files_per_second" readFloat fun x d => { d with filesPerSecond := x },
    fieldOf "timestamp" readText fun t d => { d with timestamp := t },
    fieldOf "tool_version" readText fun t d => { d with toolVersion := t }] {}

end ScanMetadata

/-! ## Trees -/

namespace TreeNode

mutual

/-- The document of a tree: names, sorts of nodes, and symbols. -/
def toJson : TreeNode → JsonValue
  | directory name children =>
    .record [("name", .ofString name), ("type", .ofString "directory"),
      ("children", .array (toJsons children))]
  | file f =>
    .record [("name", .ofString f.name), ("type", .ofString "file"),
      ("symbols", symbolListJson f.symbols)]

def toJsons : List TreeNode → List JsonValue
  | [] => []
  | t :: rest => toJson t :: toJsons rest

end

end TreeNode

/-- The document of a project map, which holds its tree only. -/
def ProjectMap.output (style : JsonStyle) (m : ProjectMap) : String :=
  String.ofList (m.tree.toJson.render style)

end CodeAtlas
