import ClusterObjects.Yaml.Scalar
import ClusterObjects.Yaml.Token

/-!
# Anchors, tags and directives of a YAML text

The tokens that describe a node or a document rather than hold its content.
-/

namespace ClusterObjects.Yaml.Token

/-- The characters that may stand in a tag, beside escapes. -/
def isTagChar (verbatim : Bool) (c : Char) : Bool :=
  isWordChar c || c == ';' || c == '/' || c == '?' || c == ':' || c == '@' || c == '&' || c == '='
    || c == '+' || c == '$' || c == '.' || c == '!' || c == '~' || c == '*' || c == '\'' || c == '('
    || c == ')' || (verbatim && (c == ',' || c == '[' || c == ']'))

/-- The byte written by two hexadecimal digits behind a percent sign. -/
def escapedByte? : List Char → Option (UInt8 × List Char)
  | '%' :: a :: b :: rest => do
    let n ← Json.Token.hexNumber? [a, b]
    return (n.toUInt8, rest)
  | _ => none

/-- The given number of escaped bytes, none of which begins a character. -/
def moreBytes? : Nat → List Char → Option (List UInt8 × List Char)
  | 0, cs => some ([], cs)
  | n + 1, cs => do
    let (byte, cs) ← escapedByte? cs
    let (bytes, cs) ← moreBytes? n cs
    if 0x80 ≤ byte ∧ byte < 0xC0 then some (byte :: bytes, cs) else none

/-- The bytes of one character that is written as escapes, as many as its first byte announces. -/
def escapedBytes? (cs : List Char) : Option (List UInt8 × List Char) := do
  let (first, rest) ← escapedByte? cs
  let width ←
    if first < 0x80 then some 1
    else if 0xC0 ≤ first ∧ first < 0xE0 then some 2
    else if 0xE0 ≤ first ∧ first < 0xF0 then some 3
    else if 0xF0 ≤ first ∧ first < 0xF8 then some 4
    else none
  let (bytes, rest) ← moreBytes? (width - 1) rest
  return (first :: bytes, rest)

/-- Reads the characters of a tag; the answer counts how many places of the text it took. -/
def tagText (verbatim : Bool) : Nat → List Char → Option (List Char × Nat)
  | 0, _ => some ([], 0)
  | fuel + 1, cs =>
    match cs with
    | [] => some ([], 0)
    | c :: rest =>
      if c == '%' then do
        let (bytes, after) ← escapedBytes? cs
        let text ← String.fromUTF8? ⟨bytes.toArray⟩
        let (more, n) ← tagText verbatim fuel after
        return (text.toList ++ more, n + 3 * bytes.length)
      else if isTagChar verbatim c then do
        let (more, n) ← tagText verbatim fuel rest
        return (c :: more, n + 1)
      else some ([], 0)

/-- Reads a tag or the expansion of a handle, which must not be empty when nothing has been read
of it before. -/
def readTagText (verbatim : Bool) (head : List Char) (c : Cursor) :
    Option (List Char × Cursor) := do
  let (text, n) ← tagText verbatim c.rest.length c.rest
  if head.isEmpty && n == 0 then none
  return (head.drop 1 ++ text, c.skip n)

/-- Reads a handle: an exclamation mark, then word characters, then perhaps another mark. In a
directive the second mark is left out only by the shortest handle. -/
def readHandle (directive : Bool) (c : Cursor) : Option (List Char × Cursor) :=
  if c.is '!' then
    let (word, c) := (c.skip 1).span isWordChar
    if c.is '!' then some ('!' :: (word ++ ['!']), c.skip 1)
    else if directive && !word.isEmpty then none
    else some ('!' :: word, c)
  else none

/-- Reads a tag: one in angle brackets as it stands, one with a handle of two marks in two parts,
and any other behind its first mark. -/
def readTag (flow : Bool) (c : Cursor) : Option (Token × Cursor) := do
  let (handle, suffix, c) ←
    if c.isAt 1 '<' then do
      let (suffix, c) ← readTagText true [] (c.skip 2)
      if c.is '>' then some ([], suffix, c.skip 1) else none
    else do
      let (handle, c) ← readHandle false c
      if 1 < handle.length && handle.getLast? == some '!' then do
        let (suffix, c) ← readTagText false [] c
        some (handle, suffix, c)
      else do
        let (suffix, c) ← readTagText false handle c
        if suffix.isEmpty then some ([], ['!'], c) else some (['!'], suffix, c)
  if c.gap || (flow && c.is ',') then
    some (tag (String.ofList handle) (String.ofList suffix), c)
  else none

/-- Reads the name behind the mark of an anchor or an alias. -/
def readName (c : Cursor) : Option (String × Cursor) :=
  let (name, c) := (c.skip 1).span isWordChar
  let closed := c.gap || c.is '?' || c.is ':' || c.is ',' || c.is ']' || c.is '\x7d' || c.is '%'
    || c.is '@' || c.is '\x60'
  if !name.isEmpty && closed then some (String.ofList name, c) else none

/-- Reads a number of at most nine digits. -/
def readVersionPart (c : Cursor) : Option (Nat × Cursor) :=
  let (digits, c) := c.span Char.isDigit
  if 0 < digits.length ∧ digits.length ≤ 9 then some (Numeral.decimalValue digits, c) else none

def readVersion (c : Cursor) : Option (Token × Cursor) := do
  let (major, c) ← readVersionPart (c.skipWhile isBlank)
  if !c.is '.' then none
  let (minor, c) ← readVersionPart (c.skip 1)
  return (version major minor, c)

def readTagDirective (c : Cursor) : Option (Token × Cursor) := do
  let (handle, c) ← readHandle true (c.skipWhile isBlank)
  if !c.sees isBlank then none
  let (expansion, c) ← readTagText true [] (c.skipWhile isBlank)
  if !c.gap then none
  return (tagDirective (String.ofList handle) (String.ofList expansion), c)

/-- Reads a directive, which fills its line. -/
def readDirective (c : Cursor) : Option (Token × Cursor) := do
  let (name, c) := (c.skip 1).span isWordChar
  if !c.gap then none
  let (token, c) ←
    if name == "YAML".toList then readVersion c
    else if name == "TAG".toList then readTagDirective c
    else none
  return (token, ← c.restOfLine?)

end ClusterObjects.Yaml.Token
