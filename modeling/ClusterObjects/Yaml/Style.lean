import ClusterObjects.Yaml.Char
import ClusterObjects.Yaml.Plain

/-!
# Styles of scalars

A text can be written plainly, in quotes, or as a literal block. `Style.ofText` chooses the first
style of these that keeps a text what it is: plain, unless it would be read as something else, then
single quotes, then double quotes with escapes. A text with line feeds becomes a literal block, or
stands in double quotes where a block would lose its blanks.
-/

namespace ClusterObjects.Yaml

inductive Style where
  | plain
  | single
  | double
  | literal
  deriving DecidableEq, Repr

namespace Style

/-- The characters that may be written as they are. -/
def isPrintable (c : Char) : Bool :=
  let n := c.toNat
  n == 0x0A || (0x20 ≤ n && n ≤ 0x7E) || (0xA0 ≤ n && n ≤ 0xFFFD && c != byteOrderMark)
    || 0x10000 ≤ n

def isSpace (c : Char) : Bool := c == ' '

/-- Whether characters of two classes stand side by side. -/
def hasPair (first second : Char → Bool) (text : List Char) : Bool :=
  (text.zip text.tail).any fun (c, d) ↦ first c && second d

def isGap (c : Char) : Bool := isBlank c || isBreak c

/-- Characters that only mean themselves when something else stands before them. -/
def isMark (c : Char) : Bool := isIndicator c && c != '-' && c != '?' && c != ':'

/-- Whether a text begins like a structure of the language. -/
def opensStructure : List Char → Bool
  | [] => false
  | c :: rest =>
    isMark c || ((c == '-' || c == '?' || c == ':') && rest.head?.all isGap)
      || (c :: rest).take 3 == ['-', '-', '-'] || (c :: rest).take 3 == ['.', '.', '.']

/-- Whether a key or a comment would be seen inside of a plain text. -/
def holdsStructure (text : List Char) : Bool :=
  hasPair (· == ':') isGap text || text.getLast? == some ':' || hasPair isGap (· == '#') text

/-- Blanks at the ends of lines, and characters that need an escape, survive in double quotes
only. -/
def needsEscape (text : List Char) : Bool :=
  !text.all isPrintable || hasPair isSpace isBreak text

def allowsLiteral (text : List Char) : Bool :=
  !text.isEmpty && !needsEscape text && text.getLast? != some ' '

def allowsSingle (text : List Char) : Bool := !needsEscape text && !hasPair isBreak isSpace text

def allowsPlain (text : List Char) : Bool :=
  allowsSingle text && !text.any isBreak && !text.head?.any isSpace && !text.getLast?.any isSpace
    && !opensStructure text && !holdsStructure text

/-- Whether the text of a plain scalar is that text, and nothing that looks like a number. -/
def meansText (text : String) : Bool :=
  Plain.ofText text == .text && !Plain.hasLeadingZero text.toList

def ofText (text : String) : Style :=
  let cs := text.toList
  if cs.contains '\n' then if allowsLiteral cs then literal else double
  else if meansText text && allowsPlain cs then plain
  else if allowsSingle cs then single
  else double

def spaces (n : Nat) : List Char := List.replicate n ' '

/-- Writes a text of several lines, each behind an indentation; empty lines get none. -/
def indented (indent : Nat) (write : Char → List Char) : (lineStarts : Bool) → List Char → List Char
  | _, [] => []
  | lineStarts, c :: rest =>
    if isBreak c then c :: indented indent write true rest
    else (if lineStarts then spaces indent else []) ++ write c ++ indented indent write false rest

def doubleQuote (c : Char) : List Char := if c == '\'' then ['\'', '\''] else [c]

def singleQuoted (indent : Nat) (text : List Char) : List Char :=
  let closing := if text.getLast?.any isBreak then spaces indent else []
  '\'' :: indented indent doubleQuote false text ++ closing ++ ['\'']

/-- The hexadecimal digits of a number, as many as `width`. -/
def hex (width n : Nat) : List Char :=
  (List.range width).reverse.map fun i ↦ (Nat.digitChar (n / Nat.pow 16 i % 16)).toUpper

def escape (c : Char) : List Char :=
  let n := c.toNat
  if c == '"' || c == '\\' then ['\\', c]
  else if isPrintable c && !isBreak c then [c]
  else
    match [(0x00, '0'), (0x07, 'a'), (0x08, 'b'), (0x09, 't'), (0x0A, 'n'), (0x0B, 'v'),
        (0x0C, 'f'), (0x0D, 'r'), (0x1B, 'e'), (0x85, 'N'), (0x2028, 'L'),
        (0x2029, 'P')].lookup n with
    | some letter => ['\\', letter]
    | none => if n ≤ 0xFF then '\\' :: 'x' :: hex 2 n else '\\' :: 'u' :: hex 4 n

def doubleQuoted (text : List Char) : List Char := '"' :: text.flatMap escape ++ ['"']

/-- What the head of a block says on the line breaks at its end: all are kept, the only one is, or
there is none. -/
def chomping (text : List Char) : List Char :=
  match text.reverse with
  | last :: before =>
    if !isBreak last then ['-'] else if before.head?.all isBreak then ['+'] else []
  | [] => ['-']

/-- The columns by which collections and blocks are indented. -/
def indentStep : Nat := 2

/-- The head of a block names its indentation when the first line does not show it. -/
def indentation (text : List Char) : List Char :=
  if text.head?.any fun c ↦ isSpace c || isBreak c then [Nat.digitChar indentStep] else []

def literalBlock (indent : Nat) (text : List Char) : List Char :=
  '|' :: indentation text ++ chomping text ++ '\n' :: indented indent (fun c ↦ [c]) true text

/-- A text in its own style. Lines after the first are indented. -/
def write (indent : Nat) (text : String) : List Char :=
  match ofText text with
  | plain => text.toList
  | single => singleQuoted indent text.toList
  | double => doubleQuoted text.toList
  | literal => literalBlock indent text.toList

end Style

end ClusterObjects.Yaml
