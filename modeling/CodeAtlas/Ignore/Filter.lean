import CodeAtlas.Ignore.Gitignore
import CodeAtlas.Scan.Config

/-!
# What a scan passes over

- `IgnoreFilter`: the names, globs and rules of a scan.
- `IgnoreFilter.ofConfig`: the filter for some settings.
- `IgnoreFilter.ignores`: is a path passed over?
- `ConfigError`: why there is no filter for some settings.
-/

namespace CodeAtlas

inductive ConfigError where
  | glob (pattern : String) (fault : GlobFault)
  | gitignore (file : Path) (faults : List LineFault)
  deriving DecidableEq, Repr

namespace ConfigError

def cause : ConfigError → String
  | glob pattern fault => globMessage pattern.toList fault
  | gitignore file faults =>
    "\n".intercalate <| faults.map fun f =>
      match f.line with
      | some n => s!"{file}: line {n}: {f.fault.message}"
      | none => s!"{file}: {f.fault.message}"

def message : ConfigError → String
  | e@(glob _ _) => "Invalid glob pattern: " ++ e.cause
  | e@(gitignore _ _) => "Failed to parse gitignore: " ++ e.cause

end ConfigError

structure IgnoreFilter where
  root : Location
  excludedNames : List String
  globs : List Glob
  gitignore : Option Gitignore
  deriving Repr

namespace IgnoreFilter

/-- In the patterns of the settings wildcards stand for slashes too, and open brackets are wrong. -/
def rules : GlobRules := ⟨true, false⟩

def readGlobs (patterns : List String) : Except ConfigError (List Glob) :=
  patterns.mapM fun pattern =>
    match Glob.read rules pattern.toList with
    | .ok glob => .ok glob
    | .error fault => .error (.glob pattern fault)

def fileName : Name := ".gitignore".toList

def readGitignore (fs : FileSystem) (root : Location) : Except ConfigError (Option Gitignore) :=
  let file := Path.ofLocation (root ++ [fileName])
  if !fs.hasPath [] file then .ok none
  else
    match fs.read [] file with
    | .error .permissionDenied => .error (.gitignore file [⟨none, .unreadable .permissionDenied⟩])
    | .error e => .error (.gitignore file [⟨some 1, .unreadable e⟩])
    | .ok bytes =>
      match Gitignore.ofBytes root bytes with
      | .ok g => .ok (some g)
      | .error faults => .error (.gitignore file faults)

/-- The filter for some settings and the root of a scan. Patterns are checked first. -/
def ofConfig (fs : FileSystem) (c : ScanConfig) (root : Location) :
    Except ConfigError IgnoreFilter := do
  let globs ← readGlobs c.ignorePatterns
  let gitignore ← if c.gitignore then readGitignore fs root else .ok none
  return ⟨root, c.excludedNames, globs, gitignore⟩

def excludes (f : IgnoreFilter) (p : Path) (isDirectory : Bool) : Bool :=
  isDirectory && p.fileName?.any fun name => f.excludedNames.contains (String.ofList name)

def ignores (f : IgnoreFilter) (p : Path) (isDirectory : Bool) : Bool :=
  f.excludes p isDirectory
    || f.globs.any (·.matchesPath (Path.below f.root p).text)
    || f.gitignore.any (·.ignores p isDirectory)

end IgnoreFilter

end CodeAtlas
