import CodeAtlas.Files.Path
import CodeAtlas.Text.Utf8

/-!
# File systems

A file system is a tree of directories with files and symbolic links. A file may have several names
(hard links): it shows at each of them, and what is written to it shows at all of them.

- `FileTree`, `FileSystem`: the trees, and a whole file system by the entries of its root.
- `FileTree.at?`: what is at a location.
- `Trail`: a place without links, by the directories on the way to it.
- `FileSystem.find`: where a path leads, with all links followed.
- `FileSystem.openPath`: where a path leads that a file is written to.
- `FileSystem.read`, `FileSystem.write`: the bytes of a file.
- `FileSystem.makeDirectories`, `FileSystem.makeLink`: new directories and links.

What else a real file system may hold cannot be stated: names that are no texts, and devices, pipes
and sockets, which a walk passes over. The longest path of the system, `maxPathBytes`, is a limit for
what is written only. What lies below a root on a longer path can be listed but not opened, so that
it is to be given as sealed: a directory, or a file without bytes.
-/

namespace CodeAtlas

/-- A file, a directory with its entries, or a symbolic link with the path that it stands for. What
is sealed is there, but may not be opened: neither read, nor listed, nor entered, nor written. -/
inductive FileTree where
  | file (bytes : Bytes)
  | sealedFile (size : Nat)
  | directory (entries : List (Name × FileTree))
  | sealedDirectory
  | link (target : Path)
  deriving Inhabited

structure FileSystem where
  entries : List (Name × FileTree) := []
  /-- The locations of the names of each file that has several. -/
  hardLinks : List (List Location) := []
  deriving Inhabited

/-! ## Errors -/

inductive FileError where
  | notFound
  | permissionDenied
  | notDirectory
  | isDirectory
  | exists
  | nameTooLong
  | tooManyLinks
  | emptyPath
  | zeroInPath
  deriving DecidableEq, Repr

namespace FileError

def coded (text : String) (code : Nat) : String := s!"{text} (os error {code})"

def message : FileError → String
  | notFound => coded "No such file or directory" 2
  | permissionDenied => coded "Permission denied" 13
  | .exists => coded "File exists" 17
  | notDirectory => coded "Not a directory" 20
  | isDirectory => coded "Is a directory" 21
  | nameTooLong => coded "File name too long" 36
  | tooManyLinks => coded "Too many levels of symbolic links" 40
  | emptyPath => "cannot make an empty path absolute"
  | zeroInPath => "file name contained an unexpected NUL byte"

end FileError

/-! ## Trees -/

namespace FileTree

def entries? : FileTree → Option (List (Name × FileTree))
  | directory es => some es
  | _ => none

/-- The bytes of a file that may be opened. -/
def bytes? : FileTree → Option Bytes
  | file bytes => some bytes
  | _ => none

def child? (entries : List (Name × FileTree)) (name : Name) : Option FileTree :=
  (entries.find? (·.1 == name)).map (·.2)

/-- What is at a location; no link is followed. -/
def at? (t : FileTree) : Location → Option FileTree
  | [] => some t
  | name :: rest => t.entries?.bind fun entries => (child? entries name).bind fun u => u.at? rest

/-- Puts a tree in the place of the entry with a name, or at the end. -/
def putEntry (entries : List (Name × FileTree)) (name : Name) (t : FileTree) :
    List (Name × FileTree) :=
  match entries with
  | [] => [(name, t)]
  | (n, old) :: rest => if n == name then (n, t) :: rest else (n, old) :: putEntry rest name t

/-- Puts a tree at a place below a directory; directories that are missing are made. -/
def putAt (entries : List (Name × FileTree)) (l : Location) (t : FileTree) :
    List (Name × FileTree) :=
  match l with
  | [] => entries
  | [name] => putEntry entries name t
  | name :: rest =>
    let inner := ((child? entries name).bind entries?).getD []
    putEntry entries name (directory (putAt inner rest t))

end FileTree

/-! ## Places -/

/-- The directories and the last entry on the way to a place, the last one first. The root has an
empty trail. -/
abbrev Trail := List (Name × FileTree)

def Trail.location (t : Trail) : Location := (t.map (·.1)).reverse

/-- What a path leads to: something that is there, or a name that is free in a directory. -/
inductive Found where
  | present (trail : Trail)
  | vacant (directory : Trail) (name : Name)
  deriving Inhabited

def Found.location : Found → Location
  | present trail => trail.location
  | vacant directory name => directory.location ++ [name]

namespace FileSystem

def at? (fs : FileSystem) (l : Location) : Option FileTree := (FileTree.directory fs.entries).at? l

def node (fs : FileSystem) : Trail → FileTree
  | [] => .directory fs.entries
  | (_, t) :: _ => t

def maxLinks : Nat := 40

def maxNameBytes : Nat := 255

/-- The longest path that a file can be written to, in bytes. -/
def maxPathBytes : Nat := 4095

/-- Does nothing but slashes follow? -/
def atEnd (pieces : List Name) : Bool := pieces.all List.isEmpty

inductive PieceStep where
  /-- It leads to a place. -/
  | goes (next : Trail)
  /-- It names a link: the pieces of the target lead on from a place. -/
  | crosses (start : Trail) (pieces : List Name)
  /-- There is nothing of that name. -/
  | free (name : Name)
  | stops (error : FileError)

/-- What a piece of a path does at a place. There must be a directory, and nothing but slashes leads
on from one that is sealed. -/
def stepPiece (fs : FileSystem) (here : Trail) (piece : Name) : PieceStep :=
  match fs.node here with
  | .sealedDirectory => if piece.isEmpty then .goes here else .stops .permissionDenied
  | .directory entries =>
    if Path.isIdle piece then .goes here
    else if piece == Path.parentName then .goes here.tail
    else if maxNameBytes < (encodeUtf8 piece).length then .stops .nameTooLong
    else
      match FileTree.child? entries piece with
      | none => .free piece
      | some (.link target) => .crosses (if target.isAbsolute then [] else here) target.pieces
      | some t => .goes ((piece, t) :: here)
  | _ => .stops .notDirectory

/-- Follows the pieces of a path from a place. Where a link is met, `cross` goes on with the pieces
of its target and those behind it. -/
def followPieces (fs : FileSystem) (cross : Trail → List Name → Except FileError Found) :
    Trail → List Name → Except FileError Found
  | here, [] => .ok (.present here)
  | here, piece :: rest =>
    match fs.stepPiece here piece with
    | .goes next => fs.followPieces cross next rest
    | .crosses start pieces => cross start (pieces ++ rest)
    | .free name => if atEnd rest then .ok (.vacant here name) else .error .notFound
    | .stops e => .error e

/-- Follows the pieces of a path from a place, with a limited number of links. -/
def followLinks (fs : FileSystem) : Nat → Trail → List Name → Except FileError Found
  | 0 => fs.followPieces fun _ _ => .error .tooManyLinks
  | n + 1 => fs.followPieces (fs.followLinks n)

/-- Where a path leads from a directory, with all links followed. Its length plays no part. -/
def find (fs : FileSystem) (current : Trail) (p : Path) : Except FileError Found :=
  if p.text.contains '\x00' then .error .zeroInPath
  else if p.text.isEmpty then .error .notFound
  else fs.followLinks maxLinks (if p.isAbsolute then [] else current) p.pieces

def locate (fs : FileSystem) (current : Trail) (p : Path) : Except FileError Trail :=
  match fs.find current p with
  | .ok (.present t) => .ok t
  | .ok (.vacant _ _) => .error .notFound
  | .error e => .error e

def hasPath (fs : FileSystem) (current : Trail) (p : Path) : Bool :=
  (fs.locate current p).toOption.isSome

/-! ## Files -/

def read (fs : FileSystem) (current : Trail) (p : Path) : Except FileError Bytes := do
  match fs.node (← fs.locate current p) with
  | .file bytes => .ok bytes
  | .directory _ => .error .isDirectory
  | _ => .error .permissionDenied

/-- The number of bytes of a file, which is known also if the file may not be opened. -/
def fileSize? (fs : FileSystem) (current : Trail) (p : Path) : Option Nat :=
  match (fs.locate current p).map fs.node with
  | .ok (.file bytes) => some bytes.length
  | .ok (.sealedFile size) => some size
  | _ => none

def put (fs : FileSystem) (l : Location) (t : FileTree) : FileSystem :=
  { fs with entries := FileTree.putAt fs.entries l t }

/-! ## Writing -/

/-- Is a piece the last name of a path, with slashes behind it? In a directory this is the name of
another directory, even if there is none. -/
def namesDirectory (fs : FileSystem) (here : Trail) (piece : Name) (rest : List Name) : Bool :=
  (fs.node here).entries?.isSome && !Path.isIdle piece && piece != Path.parentName &&
    !rest.isEmpty && atEnd rest

/-- Follows the pieces of a path that a file is written to. It must not end as that of a directory,
and neither must the target of a link that it ends with. -/
def openPieces (fs : FileSystem) (cross : Trail → List Name → Except FileError Found) :
    Trail → List Name → Except FileError Found
  | here, [] => .ok (.present here)
  | here, piece :: rest =>
    if fs.namesDirectory here piece rest then .error .isDirectory
    else
      match fs.stepPiece here piece with
      | .goes next => fs.openPieces cross next rest
      | .crosses start pieces => cross start (pieces ++ rest)
      | .free name => if atEnd rest then .ok (.vacant here name) else .error .notFound
      | .stops e => .error e

def openLinks (fs : FileSystem) : Nat → Trail → List Name → Except FileError Found
  | 0 => fs.openPieces fun _ _ => .error .tooManyLinks
  | n + 1 => fs.openPieces (fs.openLinks n)

/-- Where a path leads that a file is written to, with all links followed. -/
def openPath (fs : FileSystem) (current : Trail) (p : Path) : Except FileError Found :=
  if p.text.contains '\x00' then .error .zeroInPath
  else if maxPathBytes < (encodeUtf8 p.text).length then .error .nameTooLong
  else if p.text.isEmpty then .error .notFound
  else fs.openLinks maxLinks (if p.isAbsolute then [] else current) p.pieces

/-- Why nothing can be written to what is found, if that is so. -/
def obstacle? (fs : FileSystem) : Found → Option FileError
  | .present t =>
    match fs.node t with
    | .directory _ | .sealedDirectory => some .isDirectory
    | .sealedFile _ => some .permissionDenied
    | _ => none
  | .vacant _ _ => none

def otherNames (fs : FileSystem) (l : Location) : List Location :=
  ((fs.hardLinks.find? (·.contains l)).getD []).filter fun m =>
    m != l && ((fs.at? m).bind FileTree.bytes?).isSome

/-- All names of the file at a location. A free name will be the only one. -/
def allNames (fs : FileSystem) (l : Location) : List Location := l :: fs.otherNames l

def putEach (fs : FileSystem) (bytes : Bytes) : List Location → FileSystem
  | [] => fs
  | l :: rest => (fs.put l (.file bytes)).putEach bytes rest

/-- Writes a file, under all its names; one that is there is replaced. -/
def write (fs : FileSystem) (current : Trail) (p : Path) (bytes : Bytes) :
    Except FileError FileSystem := do
  let found ← fs.openPath current p
  match fs.obstacle? found with
  | some e => .error e
  | none => .ok (fs.putEach bytes (fs.allNames found.location))

/-! ## Directories and links -/

/-- Makes a directory at each of some paths, unless there is one. -/
def makeEach (fs : FileSystem) (current : Trail) : List Path → Except FileError FileSystem
  | [] => .ok fs
  | p :: rest => do
    match ← fs.find current p with
    | .present t =>
      match fs.node t with
      | .directory _ | .sealedDirectory => fs.makeEach current rest
      | _ => .error .exists
    | .vacant here name =>
      (fs.put (here.location ++ [name]) (.directory [])).makeEach current rest

/-- The beginnings of a path, each longer than the one before by a name. -/
def beginnings (p : Path) : List Path :=
  let pieces := p.pieces
  (List.range pieces.length).map fun n => ⟨joinWith '/' (pieces.take (n + 1))⟩

/-- Makes a directory, and those above it that are missing. -/
def makeDirectories (fs : FileSystem) (current : Trail) (p : Path) :
    Except FileError FileSystem :=
  fs.makeEach current ((beginnings p).filter (!·.text.isEmpty))

def holder (p : Path) : Path :=
  let isSlash := (· == '/')
  let start := ((p.text.reverse.dropWhile isSlash).dropWhile (!isSlash ·)).reverse
  ⟨start ++ ['.']⟩

/-- Makes a symbolic link; nothing may be there before. -/
def makeLink (fs : FileSystem) (current : Trail) (p target : Path) :
    Except FileError FileSystem := do
  let here ← fs.locate current (holder p)
  match (fs.node here).entries?, p.names.getLast? with
  | some entries, some name =>
    if (FileTree.child? entries name).isSome then .error .exists
    else .ok (fs.put (here.location ++ [name]) (.link target))
  | _, _ => .error .exists

end FileSystem

end CodeAtlas
