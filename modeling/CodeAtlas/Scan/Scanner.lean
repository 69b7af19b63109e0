import CodeAtlas.Atlas.ProjectMap
import CodeAtlas.Scan.Assembly

/-!
# Scanning

- `ScanError`: why a scan fails.
- `outlineFile`: a script of a project with its symbols.
- `Scanner`: the settings, the root and the filter of a scan.
- `Scanner.scan`: the map of a project.
- `scanFile`: a script on its own.
-/

namespace CodeAtlas

/-! ## Errors -/

inductive ScanError where
  | file (error : FileError)
  | config (error : ConfigError)
  | notDirectory (path : Path)
  | notScript (path : Path)
  deriving DecidableEq, Repr

namespace ScanError

def message : ScanError → String
  | file e => "IO error: " ++ e.message
  | config e => "Config error: " ++ e.message
  | notDirectory p => s!"Not a directory: {p}"
  | notScript p => s!"Not a script file: {p}"

def causes : ScanError → List String
  | file e => [e.message]
  | config e => [e.message, e.cause]
  | notDirectory _ => []
  | notScript _ => []

end ScanError

/-! ## Scripts -/

/-- The symbols of a script with some bytes, and how they came about. -/
def outlineBytes (c : ScanConfig) (language : Language) (bytes : Bytes) :
    List Symbol × FileStatus :=
  extractSymbols (.ofList (decodeSource bytes)) language c.outline

/-- The symbols of a script of a project, which must not be too large. A script that cannot be read
has none. -/
def readScript (fs : FileSystem) (c : ScanConfig) (s : ScriptFile) : List Symbol × FileStatus :=
  if (fs.fileSize? [] s.path).any (c.maxFileSize < ·) then ([], .tooLarge)
  else
    match fs.read [] s.path with
    | .error _ => ([], .unreadable)
    | .ok bytes => outlineBytes c s.language bytes

def outlineFile (fs : FileSystem) (c : ScanConfig) (s : ScriptFile) : FileNode :=
  let outlined := readScript fs c s
  ⟨String.ofList s.name, outlined.1, s.language, outlined.2⟩

def lastName (p : Path) : String := String.ofList (p.fileName?.getD [])

/-- A script on its own, of any size, seen from a directory. -/
def scanFile (fs : FileSystem) (current : Trail) (c : ScanConfig) (p : Path) :
    Except ScanError FileNode :=
  match Language.ofPath? p with
  | none => .error (.notScript p)
  | some language =>
    match fs.read current p with
    | .error e => .error (.file e)
    | .ok bytes =>
      let outlined := outlineBytes c language bytes
      .ok ⟨lastName p, outlined.1, language, outlined.2⟩

/-! ## Projects -/

structure Scanner where
  config : ScanConfig
  root : Location
  filter : IgnoreFilter

def resolveRoot (current : Location) (p : Path) : Except ScanError Location :=
  if p.text.isEmpty then .error (.file .emptyPath) else .ok (p.resolve current)

namespace Scanner

def ofConfig (fs : FileSystem) (current : Location) (c : ScanConfig) :
    Except ScanError Scanner := do
  let root ← resolveRoot current c.root
  match IgnoreFilter.ofConfig fs c root with
  | .error e => .error (.config e)
  | .ok filter => .ok ⟨c, root, filter⟩

def rootPath (s : Scanner) : Path := .ofLocation s.root

def walk (s : Scanner) (fs : FileSystem) : Walked :=
  Walker.walk ⟨fs, s.filter, s.config.followSymlinks⟩ s.root

def treeOf (s : Scanner) (fs : FileSystem) (entries : List WalkEntry) : TreeNode :=
  assemble (lastName s.rootPath) entries
    ((entries.filterMap WalkEntry.script?).map (outlineFile fs s.config))

/-- The map of the project. A root that may not be listed is an error. -/
def scan (s : Scanner) (fs : FileSystem) (metadata : ScanMetadata) : Except ScanError ProjectMap :=
  match fs.locate [] s.rootPath with
  | .error e => .error (.file e)
  | .ok trail =>
    match fs.node trail with
    | .directory _ =>
      let walked := s.walk fs
      let tree := s.treeOf fs walked.entries
      .ok ⟨s.rootPath.toString, tree,
        { ScanStats.ofTree tree with walkErrors := walked.errors }, metadata⟩
    | .sealedDirectory => .error (.file .permissionDenied)
    | _ => .error (.notDirectory s.rootPath)

end Scanner

end CodeAtlas
