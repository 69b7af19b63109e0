import CodeAtlas.Atlas.Stats
import CodeAtlas.Decimal.Fixed

/-!
# Project maps

- `ScanMetadata`: when and how fast a scan ran.
- `ProjectMap`: the result of a scan.
- `ProjectMap.summary`: a summary for readers.
-/

namespace CodeAtlas

def version : String := "0.1.0"

/-- When and how fast a scan ran. -/
structure ScanMetadata where
  scanDurationMs : Nat := 0
  filesPerSecond : Float := 0
  timestamp : String := ""
  toolVersion : String := version
  deriving Inhabited

structure ProjectMap where
  /-- The path of the project. -/
  root : String
  tree : TreeNode
  stats : ScanStats
  metadata : ScanMetadata
  deriving Inhabited

/-- Counts a name once more, in a list of names with their counts that is ordered by name. -/
def countName (name : String) : List (String × Nat) → List (String × Nat)
  | [] => [(name, 1)]
  | (other, n) :: rest =>
    if name = other then (other, n + 1) :: rest
    else if name < other then (name, 1) :: (other, n) :: rest
    else (other, n) :: countName name rest

/-- The names of the languages of some files, in their order, each with the number of its files. -/
def languageCounts (files : List FileNode) : List (String × Nat) :=
  files.foldl (fun counts f => countName f.language.name counts) []

namespace ProjectMap

def fileLines (s : ScanStats) : List String :=
  [s!"Directories: {s.totalDirectories}", s!"Files Scanned: {s.totalFiles}",
    s!"- Parsed: {s.parsedFiles}", s!"- Recovered: {s.recoveredFiles}",
    s!"- Unparsable: {s.unparsableFiles}", s!"- Unreadable: {s.unreadableFiles}",
    s!"- Too large: {s.oversizedFiles}", ""]

def symbolLines (s : ScanStats) : List String :=
  [s!"Total Symbols: {s.totalSymbols}", s!"- Functions: {s.functions}",
    s!"- Classes: {s.classes}", s!"- Methods: {s.methods}", s!"- Routes: {s.routes}", ""]

def languageLines (counts : List (String × Nat)) : List String :=
  if counts.isEmpty then []
  else "Languages:" :: counts.map (fun (name, n) => s!"- {name}: {n}") ++ [""]

/-- The number of errors of the walk, if there were any. -/
def errorLines (s : ScanStats) : List String :=
  if 0 < s.walkErrors then [s!"Walk Errors: {s.walkErrors}", ""] else []

def figureLines (m : ProjectMap) : List String :=
  ["Project Map Summary", "===================", s!"Root: {m.root}", ""]
    ++ fileLines m.stats ++ symbolLines m.stats ++ languageLines (languageCounts m.tree.files)
    ++ errorLines m.stats

def scanLines (d : ScanMetadata) : List String :=
  [s!"Scan Duration: {d.scanDurationMs}ms ({String.ofList (fixedText 2 d.filesPerSecond)} files/sec)",
    s!"Timestamp: {d.timestamp}", s!"Tool Version: {d.toolVersion}"]

/-- Lines as one text; each ends with a line feed. -/
def unlines (lines : List String) : String := lines.foldr (fun line rest => line ++ "\n" ++ rest) ""

def figures (m : ProjectMap) : String := unlines m.figureLines

def summary (m : ProjectMap) : String := m.figures ++ unlines (scanLines m.metadata)

end ProjectMap

end CodeAtlas
