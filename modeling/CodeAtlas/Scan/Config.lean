import CodeAtlas.Files.Path
import CodeAtlas.Outline.Ladder

/-!
# What to scan, and how

- `ScanConfig`: the settings of a scan.
- `ScanConfig.excludedNames`: the names of the directories that are passed over.
- `ScanConfig.outline`: what is wanted of each script.
-/

namespace CodeAtlas

structure ScanConfig where
  /-- The directory to scan. -/
  root : Path := .ofString "."
  /-- Pass over the directories that are excluded by default? -/
  defaultExcludes : Bool := true
  /-- Names of further directories to pass over. -/
  excludedDirs : List String := []
  /-- Globs for paths below the root that are passed over. -/
  ignorePatterns : List String := []
  /-- Honour the ignore file of the root? -/
  gitignore : Bool := false
  followSymlinks : Bool := false
  /-- Scripts with more bytes are listed without symbols. -/
  maxFileSize : Nat := 10 * 1024 * 1024
  /-- The number of scripts that may be read at a time; the result does not depend on it. -/
  threads : Nat := 0
  lines : Bool := false
  lenient : Bool := false
  deriving DecidableEq, Inhabited, Repr

namespace ScanConfig

def defaultExcludedNames : List String := ["node_modules", "dist", "build"]

def addName (names : List String) (name : String) : List String :=
  if names.contains name then names else names ++ [name]

/-- The names of the directories that are passed over, each once. -/
def excludedNames (c : ScanConfig) : List String :=
  c.excludedDirs.foldl addName (if c.defaultExcludes then defaultExcludedNames else [])

def outline (c : ScanConfig) : OutlineOptions := ⟨c.lines, c.lenient⟩

end ScanConfig

end CodeAtlas
