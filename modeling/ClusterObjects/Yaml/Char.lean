/-!
# Characters of YAML

The classes of characters that a YAML text is cut by, and the position of a reader in a text. A
position counts characters from the start of the text and of the line; a carriage return with a
line feed behind it is one line break of two characters.
-/

namespace ClusterObjects.Yaml

/-- The characters that a YAML text may hold. -/
def isAllowed (c : Char) : Bool :=
  let n := c.toNat
  n == 0x09 || n == 0x0A || n == 0x0D || (0x20 ≤ n && n ≤ 0x7E) || n == 0x85
    || (0xA0 ≤ n && n ≤ 0xD7FF) || (0xE000 ≤ n && n ≤ 0xFFFD) || 0x10000 ≤ n

def byteOrderMark : Char := '\ufeff'

def isBlank (c : Char) : Bool := c == ' ' || c == '\t'

def isBreak (c : Char) : Bool :=
  c == '\n' || c == '\r' || c == '\u0085' || c == '\u2028' || c == '\u2029'

/-- The characters of anchors and tag handles. -/
def isWordChar (c : Char) : Bool := c.isAlphanum || c == '_' || c == '-'

/-- The characters that mean something inside a flow collection. -/
def isFlowMark (c : Char) : Bool :=
  c == ',' || c == '[' || c == ']' || c == '\x7b' || c == '\x7d'

/-- The characters that a plain scalar cannot start with when more text follows freely. -/
def isIndicator (c : Char) : Bool :=
  isFlowMark c || c == '-' || c == '?' || c == ':' || c == '#' || c == '&' || c == '*' || c == '!'
    || c == '|' || c == '>' || c == '\'' || c == '"' || c == '%' || c == '@' || c == '\x60'

/-- The rest of a text, and where in the text it begins. -/
structure Cursor where
  rest : List Char
  index : Nat
  line : Nat
  column : Nat

namespace Cursor

def ofText (text : List Char) : Cursor := ⟨text, 0, 0, 0⟩

def peek (c : Cursor) : Option Char := c.rest.head?

def peekAt (c : Cursor) (n : Nat) : Option Char := (c.rest.drop n).head?

def is (c : Cursor) (d : Char) : Bool := c.peek == some d

def isAt (c : Cursor) (n : Nat) (d : Char) : Bool := c.peekAt n == some d

def atEnd (c : Cursor) : Bool := c.rest.isEmpty

/-- Whether the next character is one of a class; the end of the text is in none. -/
def sees (c : Cursor) (p : Char → Bool) : Bool := c.peek.any p

/-- Whether a blank, a line break or the end of the text stands `n` characters ahead. -/
def gapAt (c : Cursor) (n : Nat) : Bool := (c.peekAt n).all fun d ↦ isBlank d || isBreak d

def gap (c : Cursor) : Bool := c.gapAt 0

def lineEnds (c : Cursor) : Bool := c.peek.all isBreak

/-- Skips `n` characters of one line. -/
def skip (c : Cursor) (n : Nat) : Cursor :=
  ⟨c.rest.drop n, c.index + n, c.line, c.column + n⟩

/-- Skips a line break. -/
def nextLine (c : Cursor) : Cursor :=
  let n := match c.rest with
    | '\r' :: '\n' :: _ => 2
    | _ => 1
  ⟨c.rest.drop n, c.index + n, c.line + 1, 0⟩

/-- The text of a line break. Only the two separators of Unicode stay what they are. -/
def breakText (c : Cursor) : List Char :=
  match c.peek with
  | some d => if d == '\u2028' || d == '\u2029' then [d] else if isBreak d then ['\n'] else []
  | none => []

/-- The characters of a class that stand next on the line, and what follows them. -/
def span (c : Cursor) (p : Char → Bool) : List Char × Cursor :=
  let taken := c.rest.takeWhile fun d ↦ p d && !isBreak d
  (taken, c.skip taken.length)

def skipWhile (c : Cursor) (p : Char → Bool) : Cursor := (c.span p).2

/-- Whether a line begins here with three dashes or three dots that stand alone. -/
def atDocumentMark (c : Cursor) (d : Char) : Bool :=
  c.column == 0 && c.is d && c.isAt 1 d && c.isAt 2 d && c.gapAt 3

def atDocumentBoundary (c : Cursor) : Bool := c.atDocumentMark '-' || c.atDocumentMark '.'

/-- Skips a line break, when one stands here. -/
def skipBreak (c : Cursor) : Cursor := if c.sees isBreak then c.nextLine else c

/-- Skips blanks and a comment up to the end of the line, where nothing else may stand. -/
def restOfLine? (c : Cursor) : Option Cursor :=
  let c := c.skipWhile isBlank
  let c := if c.is '#' then c.skipWhile fun _ ↦ true else c
  if c.lineEnds then some c.skipBreak else none

end Cursor

end ClusterObjects.Yaml
