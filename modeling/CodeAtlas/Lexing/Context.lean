import CodeAtlas.Text.Source

/-!
# Tokens that depend on context

Some tokens have no pattern of their own: a semicolon that a line end stands for, the text of a
template or of a JSX element, the question mark of a conditional expression, a comment in HTML
style. They are recognised by rules that look ahead, and only where the grammar admits them.

- `ContextToken`: the tokens in question.
- `Dialect`: plain scripts and scripts with types differ in a few of the rules.
- `Semicolon.scan`: may a statement end here without a semicolon?
- `contextScan`: the token at a position among those that are admitted.
-/

namespace CodeAtlas

/-- Tokens that are recognised by looking at their surroundings. The last three on the list of a
grammar only tell the rules where they are. -/
inductive ContextToken where
  | automaticSemicolon
  | templateText
  | ternaryMark
  | htmlComment
  | logicalOr
  | escapeSequence
  | regexPattern
  | jsxText
  | signatureSemicolon
  | errorRecovery
  deriving DecidableEq, Repr

inductive Dialect where
  | plain
  | typed
  deriving DecidableEq, Repr

structure ContextMatch where
  token : ContextToken
  start : Position
  stop : Position
  deriving DecidableEq, Repr

def isSpace (c : Char) : Bool := c == ' ' || ('\t' ≤ c && c ≤ '\r')

/-- The line terminators besides carriage return. -/
def isLineEnd (c : Char) : Bool := c == '\n' || c == '\u2028' || c == '\u2029'

def isLetter (c : Char) : Bool := ('a' ≤ c && c ≤ 'z') || ('A' ≤ c && c ≤ 'Z')

def isDigit (c : Char) : Bool := '0' ≤ c && c ≤ '9'

/-- Text may go on with this character: it is not the mark of the end. -/
def isText (c : Char) : Bool := c != '\x00'

namespace Semicolon

/-- The state of the search for a place where a semicolon may be left out: whether one may be,
whether a comment was passed, and the position reached. -/
structure Outcome where
  accepted : Bool
  sawComment : Bool
  position : Position
  deriving Repr

inductive Gap where
  /-- No gap: an operator follows. -/
  | operator
  /-- A comment on one line, after which more has to be looked at. -/
  | sameLine
  /-- Blanks and comments. -/
  | blank
  deriving DecidableEq, Repr

/-- Behind the opening of a block comment: its end, whether it is closed, and whether it holds a
line end. -/
def blockComment (src : Source) : Nat → Position → Bool → Position × Bool × Bool
  | 0, p, newline => (p, false, newline)
  | fuel + 1, p, newline =>
    let c := src.look p
    if c = '\x00' then (p, false, newline)
    else if c = '*' then
      if src.look (p + 1) = '/' then (p + 2, true, newline)
      else blockComment src fuel (p + 1) newline
    else blockComment src fuel (p + 1) (newline || isLineEnd c)

/-- Passes blanks and comments. With `through` the search goes on behind every comment, else it
stops behind a block comment. In typed scripts a line comment ends at a line feed only. -/
def gap (dialect : Dialect) (src : Source) (through : Bool) :
    Nat → Position → Bool → Gap × Position × Bool
  | 0, p, saw => (.blank, p, saw)
  | fuel + 1, p, saw =>
    let p := src.skip isSpace p
    if src.look p = '/' then
      if src.look (p + 1) = '/' then
        let lineEnd := if dialect = .typed then (· == '\n') else isLineEnd
        gap dialect src through fuel
          (src.skip (fun c => isText c && !lineEnd c) (p + 2)) true
      else if src.look (p + 1) = '*' then
        let (q, closed, newline) := blockComment src src.size (p + 2) false
        if closed && src.look q != '/' && !through then
          (if newline then .blank else .sameLine, q, true)
        else gap dialect src through fuel q (saw || closed)
      else (.operator, p + 1, saw)
    else (.blank, p, saw)

/-- Passes the letters of a given word as far as they stand at `p`. -/
def passWord (src : Source) : List Char → Position → Bool × Position
  | [], p => (true, p)
  | c :: rest, p => if src.look p = c then passWord src rest (p + 1) else (false, p)

/-- After a line end: does the next token begin a new statement? The characters in `blocked`
continue the old one; so do a dot that begins no number, the binary plus and minus, an
inequality sign and the words `in` and `instanceof`. -/
def newLine (src : Source) (blocked : List Char) (dotNumber : Bool) (saw : Bool) (p : Position) :
    Outcome :=
  let c := src.look p
  let d := src.look (p + 1)
  if blocked.contains c then ⟨false, saw, p⟩
  else if c = '.' && dotNumber then ⟨isDigit d, saw, p + 1⟩
  else if c = '+' then ⟨d == '+', saw, p + 1⟩
  else if c = '-' then ⟨d == '-', saw, p + 1⟩
  else if c = '!' then ⟨d != '=', saw, p + 1⟩
  else if c = 'i' then
    if d != 'n' then ⟨true, saw, p + 1⟩
    else if !isLetter (src.look (p + 2)) then ⟨false, saw, p + 2⟩
    else
      let (whole, q) := passWord src "stanceof".toList (p + 2)
      if whole && !isLetter (src.look q) then ⟨false, saw, q⟩ else ⟨true, saw, q⟩
  else ⟨true, saw, p⟩

/-- The search on the line of the statement itself, in a plain script. Unless a logical operator
could follow (`operatorFollows`), a comment may stand for the line end. -/
def sameLinePlain (src : Source) (operatorFollows : Bool) :
    Nat → Position → Bool → Outcome
  | 0, p, saw => ⟨false, saw, p⟩
  | fuel + 1, p, saw =>
    if src.look p = '\x00' then ⟨true, saw, p⟩
    else
      let (settled, p, saw) := comment p saw
      let c := src.look p
      match settled with
      | some accepted => ⟨accepted, saw, p⟩
      | none =>
        if c = '}' || p = 0 then ⟨true, saw, p⟩
        else if isLineEnd c then
          let (kind, q, saw) := gap .plain src true (src.size + 1) (p + 1) saw
          if kind = .operator then ⟨false, saw, q⟩
          else newLine src "`,:;*%><=[(?^|&/".toList true saw q
        else if isSpace c then sameLinePlain src operatorFollows fuel (p + 1) saw
        else ⟨false, saw, p⟩
where
  /-- Looks at a comment that begins at `p`, which may settle the question. -/
  comment (p : Position) (saw : Bool) : Option Bool × Position × Bool :=
    if src.look p = '/' then
      let (kind, q, saw) := gap .plain src false (src.size + 1) p saw
      if kind = .operator then (some false, q, saw)
      else
        let d := src.look q
        if kind = .blank && !operatorFollows && d != ',' && d != '=' then (some true, q, saw)
        else (none, q, saw)
    else (none, p, saw)

/-- The search on the line of the statement itself, in a script with types. A closing brace ends
the statement unless a colon behind it shows that it closes a pattern. -/
def sameLineTyped (src : Source) (operatorFollows signature : Bool) :
    Nat → Position → Outcome
  | 0, p => ⟨false, false, p⟩
  | fuel + 1, p =>
    let c := src.look p
    if c = '\x00' then ⟨true, false, p⟩
    else if c = '}' then
      let q := src.skip isSpace (p + 1)
      ⟨src.look q != ':' || operatorFollows, false, q⟩
    else if c = '\n' then
      let (kind, q, saw) := gap .typed src true (src.size + 1) (p + 1) false
      if kind = .operator then ⟨false, saw, q⟩
      else
        let d := src.look q
        if d = '{' then ⟨!signature, saw, q⟩
        else if d = '(' || d = '[' then ⟨!operatorFollows, saw, q⟩
        else newLine src "`,.;*%><=?^|&/:".toList false saw q
    else if isSpace c then sameLineTyped src operatorFollows signature fuel (p + 1)
    else ⟨false, false, p⟩

/-- May the statement that ends at `p` be without a semicolon? -/
def scan (dialect : Dialect) (src : Source) (admitted : ContextToken → Bool) (p : Position) :
    Outcome :=
  match dialect with
  | .plain => sameLinePlain src (admitted .logicalOr) (src.size - p + 1) p false
  | .typed =>
    sameLineTyped src (admitted .logicalOr) (admitted .signatureSemicolon) (src.size - p + 1) p

end Semicolon

/-- The text of a template, up to a substitution, an escape or the closing backtick. -/
def templateScan (src : Source) : Nat → Position → Option Position
  | 0, _ => none
  | fuel + 1, p =>
    match src.look p with
    | '\x60' => some p
    | '\\' => some p
    | '\x00' => none
    | '$' => if src.look (p + 1) = '{' then some p else templateScan src fuel (p + 1)
    | _ => templateScan src fuel (p + 1)

/-- The question mark of a conditional expression, which is neither doubled nor part of an
optional access; in typed scripts it does not mark an optional parameter either. -/
def ternaryScan (dialect : Dialect) (src : Source) (p : Position) : Option ContextMatch :=
  let p := src.skip isSpace p
  let found : Option ContextMatch := some ⟨.ternaryMark, p, p + 1⟩
  if src.look p != '?' then none
  else
    let c := src.look (p + 1)
    match dialect with
    | .plain =>
      if c = '?' then none
      else if c = '.' then if isDigit (src.look (p + 2)) then found else none
      else found
    | .typed =>
      if c = '?' || c = '.' then none
      else
        let q := src.skip isSpace (p + 1)
        let d := src.look q
        if d = ':' || d = ')' || d = ',' then none
        else if d = '.' then if isDigit (src.look (q + 1)) then found else none
        else found

/-- A comment that begins with `<!--` or `-->` and runs to the end of the line. -/
def htmlCommentScan (src : Source) (start p : Position) : Option ContextMatch :=
  let q := src.skip (fun c => isSpace c || isLineEnd c) p
  let start := if q = p then start else q
  let opening := if src.look q = '<' then "<!--".toList else "-->".toList
  if src.startsWith q opening then
    let stop := src.skip (fun c => isText c && !isLineEnd c) (q + opening.length)
    some ⟨.htmlComment, start, stop⟩
  else none

def endsJsxText (c : Char) : Bool := "<>\x7b\x7d&".toList.contains c || c == '\x00'

/-- Does a stretch of JSX text count? Line breaks with the indentation behind them do not. -/
def jsxTextCounts : Bool → List Char → Bool
  | _, [] => false
  | newline, c :: rest =>
    if c = '\n' then jsxTextCounts true rest
    else if newline && isSpace c then jsxTextCounts true rest
    else true

def contextScan (dialect : Dialect) (src : Source) (admitted : ContextToken → Bool)
    (p : Position) : Option ContextMatch :=
  if admitted .templateText then
    if admitted .automaticSemicolon then none
    else
      match templateScan src (src.size - p + 1) p with
      | some q => if q = p then none else some ⟨.templateText, p, q⟩
      | none => none
  else
    let q := if admitted .jsxText then src.skip (fun c => !endsJsxText c) p else p
    if admitted .jsxText && jsxTextCounts false (src.sliceList p q) then some ⟨.jsxText, p, q⟩
    else if admitted .automaticSemicolon || admitted .signatureSemicolon then
      let outcome := Semicolon.scan dialect src admitted q
      if outcome.accepted then some ⟨.automaticSemicolon, q, q⟩
      else if !outcome.sawComment && admitted .ternaryMark
          && src.look outcome.position = '?' then
        ternaryScan dialect src outcome.position
      else none
    else if admitted .ternaryMark then ternaryScan dialect src q
    else if admitted .htmlComment && !admitted .logicalOr && !admitted .escapeSequence
        && !admitted .regexPattern then
      htmlCommentScan src p q
    else none

end CodeAtlas
