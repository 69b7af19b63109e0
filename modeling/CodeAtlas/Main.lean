import CodeAtlas.Atlas.Timestamp
import CodeAtlas.Command.Run
import Std.Time.DateTime.Timestamp

/-!
# The program

The outer layer: it copies what a run needs of the real file system, lets the run happen there, and
brings its result out.

- `Copy.addPath`: copies a path with the directories and links that lead to it.
- `Copy.addTree`: copies a directory, with empty files.
- `Copy.fillScripts`: copies the contents of the scripts that a scan finds.
- `main`: the program.
-/

namespace CodeAtlas

namespace Copy

def textOf (l : Location) : String := (Path.ofLocation l).toString

def locationOf (path : String) : Location := (Path.ofString path).names

/-- The path that a path stands for when all links are followed. -/
def realPath? (l : Location) : IO (Option Location) := do
  match ← (IO.FS.realPath (textOf l)).toBaseIO with
  | .ok p =>
    if ← p.pathExists then return some (locationOf p.toString) else return none
  | .error _ => return none

/-- What there is at a location; links are not followed. -/
def typeAt? (l : Location) : IO (Option IO.FS.FileType) := do
  match ← (System.mkFilePath [textOf l]).symlinkMetadata.toBaseIO with
  | .ok m => return some m.type
  | .error _ => return none

def sizeAt (l : Location) : IO Nat := do
  match ← (System.mkFilePath [textOf l]).metadata.toBaseIO with
  | .ok m => return m.byteSize.toNat
  | .error _ => return 0

def addDirectory (fs : FileSystem) (l : Location) : FileSystem :=
  if l.isEmpty || fs.hasPath [] (.ofLocation l) then fs else fs.put l (.directory [])

/-- Adds a link. One that leads nowhere leads to itself. -/
def addLink (fs : FileSystem) (l : Location) : IO FileSystem := do
  match ← realPath? l with
  | none => return fs.put l (.link (.ofLocation l))
  | some target =>
    let fs := fs.put l (.link (.ofLocation target))
    if fs.hasPath [] (.ofLocation target) then return fs
    match ← typeAt? target with
    | some .dir => return fs.put target (.directory [])
    | _ => return fs.put target (.file [])

/-- Adds a path with the directories and links that lead to it, as far as they are there. -/
def addPath (fs : FileSystem) (l : Location) : IO FileSystem := do
  let mut fs := fs
  for n in [0:l.length] do
    let here := l.take (n + 1)
    if fs.hasPath [] (.ofLocation here) then continue
    match fs.locate [] (.ofLocation here.dropLast), here.getLast? with
    | .ok around, some name =>
      let real := around.location ++ [name]
      match ← typeAt? here with
      | some .dir => fs := addDirectory fs real
      | some .file => fs := fs.put real (.file [])
      | some .symlink => fs ← addLink fs real
      | _ => pure ()
    | _, _ => pure ()
  return fs

/-- Adds a directory with all that is in it. Files are empty, and directories that links lead to
are added if links are followed. -/
partial def addTree (followLinks : Bool) (fs : FileSystem) (l : Location) : IO FileSystem := do
  let mut fs := addDirectory fs l
  match ← (System.mkFilePath [textOf l]).readDir.toBaseIO with
  | .error _ => return if l.isEmpty then fs else fs.put l .sealedDirectory
  | .ok entries =>
    for e in entries do
      let inner := l ++ [e.fileName.toList]
      match ← typeAt? inner with
      | some .dir => fs ← addTree followLinks fs inner
      | some .file => fs := fs.put inner (.file [])
      | some .symlink =>
        let target ← realPath? inner
        let isKnown := target.any fun t => fs.hasPath [] (.ofLocation t)
        fs ← addLink fs inner
        match target with
        | some t => if followLinks && !isKnown then fs ← addTree followLinks fs t
        | none => pure ()
      | _ => pure ()
    return fs

def fill (fs : FileSystem) (p : Path) : IO FileSystem := do
  match fs.locate [] p with
  | .error _ => return fs
  | .ok trail =>
    match fs.node trail with
    | .file _ =>
      match ← (IO.FS.readBinFile (textOf trail.location)).toBaseIO with
      | .ok bytes => return fs.put trail.location (.file bytes.toList)
      | .error e =>
        IO.eprintln s!"Failed to read file {p}: {e}"
        let size ← sizeAt trail.location
        return fs.put trail.location (.sealedFile size)
    | _ => return fs

def fillScripts (fs : FileSystem) (current : Location) (c : ScanConfig) : IO FileSystem := do
  match Scanner.ofConfig fs current c with
  | .error _ => return fs
  | .ok scanner =>
    ((scanner.walk fs).entries.filterMap WalkEntry.script?).foldlM (fun fs s => fill fs s.path) fs

/-- The part of the real file system that a scan needs. -/
def forScan (current : Location) (c : ScanConfig) : IO FileSystem := do
  let root := c.root.resolve current
  let fs ← addPath (← addPath {} current) root
  match fs.locate [] (.ofLocation root) with
  | .error _ => return fs
  | .ok trail =>
    match fs.node trail with
    | .directory _ =>
      let fs ← addTree c.followSymlinks fs trail.location
      let fs ← fill fs (.ofLocation (root ++ [IgnoreFilter.fileName]))
      fillScripts fs current c
    | _ => return fs

end Copy

/-! ## Running -/

def systemMessage (e : IO.Error) : String :=
  match e with
  | .noFileOrDirectory _ _ _ => FileError.notFound.message
  | .inappropriateType _ code details => FileError.coded details code.toNat
  | .permissionDenied _ code details => FileError.coded details code.toNat
  | .invalidArgument _ code details => FileError.coded details code.toNat
  | .resourceExhausted _ code details => FileError.coded details code.toNat
  | e => e.toString

/-- When and how fast a scan ran, from its start and its end in milliseconds. -/
def measured (start finish files : Nat) : IO ScanMetadata := do
  let now ← Std.Time.Timestamp.now
  let elapsed := finish - start
  let rate := if elapsed = 0 then 0 else Float.ofNat files / (Float.ofNat elapsed / 1000)
  return ⟨elapsed, rate, timestampText now.toNanosecondsSinceUnixEpoch.val.toNat, version⟩

def bringOut (a : Arguments) (map : ProjectMap) : IO Outcome := do
  match a.delivery map with
  | .print text => return .done text map a.verbose
  | .save path text =>
    match ← (IO.FS.writeFile path text).toBaseIO with
    | .ok _ => return .done (savedText path) map a.verbose
    | .error e => return .failed (saveFailure path (systemMessage e))

def runHere (arguments : List String) : IO Outcome := do
  match Arguments.read arguments with
  | .error e => return .refused e
  | .ok a =>
    let start ← IO.monoMsNow
    let current := Copy.locationOf (← IO.FS.realPath (← IO.currentDir)).toString
    let fs ← Copy.forScan current a.config
    let place := (fs.locate [] (.ofLocation current)).toOption.getD []
    match mapProject fs place {} a with
    | .error failure => return .failed failure
    | .ok map =>
      let metadata ← measured start (← IO.monoMsNow) map.stats.totalFiles
      bringOut a { map with metadata := metadata }

end CodeAtlas

def main (arguments : List String) : IO UInt32 := do
  let outcome ← CodeAtlas.runHere arguments
  IO.print outcome.stdout
  for text in [outcome.refusal?, outcome.report?, outcome.verboseMap?.map (·.summary)] do
    IO.eprint (text.getD "")
  return UInt32.ofNat outcome.exitCode
