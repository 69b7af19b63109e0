import CodeAtlas.Text.Split

/-!
# Paths

- `Path`: the text of a path.
- `Path.names`: the names between its slashes, without the empty ones and single dots.
- `Path.fileName?`, `Path.extension?`: the last name and what follows its last dot.
- `Location`: a place below the root of a file system, by the names that lead to it.
- `Path.resolve`: the location that a path stands for, found from its text alone.
- `Path.below`: the rest of a path below a location.

Names are texts. Those of a real file system may also have bytes that are not UTF-8; they cannot be
stated, and neither can the text with replacement characters that the program shows for them.
-/

namespace CodeAtlas

abbrev Name := List Char

structure Path where
  text : List Char
  deriving DecidableEq, Inhabited, Repr

/-- A place below the root of a file system, by the names that lead to it. -/
abbrev Location := List Name

namespace Path

def ofString (s : String) : Path := ⟨s.toList⟩

def toString (p : Path) : String := String.ofList p.text

instance : ToString Path := ⟨toString⟩

/-! ## Names -/

def isSlash (c : Char) : Bool := c == '/'

def pieces (p : Path) : List Name := splitWhere isSlash p.text

/-- An empty piece or a single dot says nothing about where a path leads. -/
def isIdle (piece : Name) : Bool := piece.isEmpty || piece == ['.']

def parentName : Name := ['.', '.']

/-- The names between the slashes, without the empty ones and single dots. -/
def names (p : Path) : List Name := p.pieces.filter (!isIdle ·)

def isAbsolute (p : Path) : Bool := p.text.head? == some '/'

/-- The last name, unless it leads to the parent. -/
def fileName? (p : Path) : Option Name := p.names.getLast?.filter (· != parentName)

/-- What follows the last dot of a name; nothing if the dot comes first. -/
def extensionOf? (name : Name) : Option Name :=
  match splitWhere (· == '.') name with
  | [] | [_] | [[], _] => none
  | parts => parts.getLast?

def extension? (p : Path) : Option Name := p.fileName?.bind extensionOf?

/-! ## Locations -/

/-- Goes to a name, or to the parent, which at the root is the root itself. -/
def step (l : Location) (name : Name) : Location :=
  if name == parentName then l.dropLast else l ++ [name]

def walkNames (start : Location) (names : List Name) : Location := names.foldl step start

/-- The location that a path stands for, seen from a current directory; links play no part. -/
def resolve (current : Location) (p : Path) : Location :=
  walkNames (if p.isAbsolute then [] else current) p.names

def ofLocation (l : Location) : Path := ⟨'/' :: joinWith '/' l⟩

/-- A path behind another one, unless it is absolute itself. -/
def join (p q : Path) : Path :=
  if q.isAbsolute then q
  else if p.text.isEmpty || p.text.getLast? == some '/' then ⟨p.text ++ q.text⟩
  else ⟨p.text ++ '/' :: q.text⟩

/-! ## Relative paths -/

/-- The pieces behind some names; idle pieces are passed over. -/
def piecesAfter? : List Name → List Name → Option (List Name)
  | [], pieces => some pieces
  | _ :: _, [] => none
  | name :: names, piece :: pieces =>
    if isIdle piece then piecesAfter? (name :: names) pieces
    else if piece == name then piecesAfter? names pieces
    else none

/-- Some pieces without the idle ones at both ends. -/
def trimIdle (pieces : List Name) : List Name :=
  ((pieces.dropWhile isIdle).reverse.dropWhile isIdle).reverse

/-- The rest of an absolute path below a location; a path that leads elsewhere is kept. -/
def below (l : Location) (p : Path) : Path :=
  match if p.isAbsolute then piecesAfter? l p.pieces else none with
  | some rest => ⟨joinWith '/' (trimIdle rest)⟩
  | none => p

end Path

end CodeAtlas
