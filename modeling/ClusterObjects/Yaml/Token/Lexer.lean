import ClusterObjects.Yaml.Token.Properties

/-!
# Cutting a YAML text into tokens

`Token.ofText?` reads a text from left to right. Whether a scalar is the key of a mapping is known
only at the colon behind it, so a lexer remembers where a key may have begun, for each open bracket
one place, and puts the mark of the key there afterwards. Such a key lies on one line and has at
most 1024 characters.
-/

namespace ClusterObjects.Yaml

/-- A place where the key of a mapping may have begun. A required one stands where the mapping's
other keys stand, so a colon has to follow it. -/
structure PossibleKey where
  required : Bool
  number : Nat
  index : Nat
  line : Nat
  column : Nat

structure Lexer where
  cursor : Cursor
  /-- The number of open brackets. -/
  flow : Nat := 0
  /-- The column of the innermost block collection, and those of the collections around it. -/
  indent : Int := -1
  outer : List Int := []
  keyAllowed : Bool := true
  /-- The possible keys, that of the innermost bracket first. -/
  keys : List (Option PossibleKey) := [none]
  /-- The tokens read, the last one first, and their number. -/
  tokens : List Token := []
  count : Nat := 0

namespace Lexer

def maxKeyLength : Nat := 1024

def push (lexer : Lexer) (token : Token) : Lexer :=
  { lexer with tokens := token :: lexer.tokens, count := lexer.count + 1 }

/-- Puts a token before the one with the given number. -/
def insertAt (lexer : Lexer) (number : Nat) (token : Token) : Lexer :=
  let later := lexer.count - number
  { lexer with
    tokens := lexer.tokens.take later ++ token :: lexer.tokens.drop later
    count := lexer.count + 1 }

def skip (lexer : Lexer) (n : Nat) : Lexer := { lexer with cursor := lexer.cursor.skip n }

/-- Gives up the possible key of the innermost bracket, unless a colon has to follow it. -/
def dropKey (lexer : Lexer) : Option Lexer :=
  match lexer.keys with
  | some key :: rest => if key.required then none else some { lexer with keys := none :: rest }
  | _ => some lexer

/-- Remembers that a key may begin here. -/
def noteKey (lexer : Lexer) : Option Lexer :=
  if lexer.keyAllowed then do
    let lexer ← lexer.dropKey
    let c := lexer.cursor
    let key : PossibleKey :=
      { required := lexer.flow == 0 && lexer.indent == (c.column : Int)
        number := lexer.count, index := c.index, line := c.line, column := c.column }
    return { lexer with keys := some key :: lexer.keys.drop 1 }
  else some lexer

/-- Whether a possible key can no longer be one. -/
def isStale (c : Cursor) (key : PossibleKey) : Bool :=
  decide (key.line < c.line) || decide (key.index + maxKeyLength < c.index)

/-- Gives up the possible keys that can no longer be keys. -/
def dropStaleKeys (lexer : Lexer) : Option Lexer :=
  let stale (key : Option PossibleKey) : Bool := key.any (isStale lexer.cursor)
  if lexer.keys.any stale then
    if lexer.keys.any fun key ↦ stale key && key.any (·.required) then none
    else some { lexer with keys := lexer.keys.map fun key ↦ if stale key then none else key }
  else some lexer

/-- Closes the block collections that begin to the right of a column. -/
def closeTo (column : Int) : List Int → Lexer → Lexer
  | outer, lexer =>
    if lexer.flow == 0 && column < lexer.indent then
      match outer with
      | [] => { lexer.push .blockEnd with indent := -1, outer := [] }
      | parent :: rest =>
        closeTo column rest { lexer.push .blockEnd with indent := parent, outer := rest }
    else lexer

def unindent (lexer : Lexer) (column : Int) : Lexer := closeTo column lexer.outer lexer

/-- Opens a block collection at a column to the right of the innermost one; `number` says before
which token, when it is not the next. -/
def openAt (lexer : Lexer) (column : Nat) (number : Option Nat) (token : Token) : Lexer :=
  if lexer.flow == 0 && lexer.indent < (column : Int) then
    let lexer := { lexer with indent := column, outer := lexer.indent :: lexer.outer }
    match number with
    | none => lexer.push token
    | some number => lexer.insertAt number token
  else lexer

/-- Skips blanks, comments and line breaks. A tab is no blank where a key may begin. -/
def skipToToken (lexer : Lexer) : Nat → Lexer
  | 0 => lexer
  | fuel + 1 =>
    let c := lexer.cursor
    let c := if c.index == 0 && c.is byteOrderMark then c.skip 1 else c
    let tabs := lexer.flow != 0 || !lexer.keyAllowed
    let c := c.skipWhile fun d ↦ d == ' ' || (tabs && d == '\t')
    let c := if c.is '#' then c.skipWhile fun _ ↦ true else c
    if c.sees isBreak then
      let keyAllowed := lexer.keyAllowed || lexer.flow == 0
      skipToToken { lexer with cursor := c.nextLine, keyAllowed } fuel
    else { lexer with cursor := c }

/-- Leaves all block collections, for what stands between documents. -/
def leaveBlocks (lexer : Lexer) : Option Lexer := do
  let lexer ← (lexer.unindent (-1)).dropKey
  return { lexer with keyAllowed := false }

def readEnd (lexer : Lexer) : Option Lexer := do
  let lexer ← lexer.leaveBlocks
  return lexer.push .streamEnd

def readMark (lexer : Lexer) (token : Token) : Option Lexer := do
  let lexer ← lexer.leaveBlocks
  return (lexer.skip 3).push token

def openFlow (lexer : Lexer) (token : Token) : Option Lexer := do
  let lexer ← lexer.noteKey
  return { (lexer.skip 1).push token with
    flow := lexer.flow + 1, keys := none :: lexer.keys, keyAllowed := true }

def closeFlow (lexer : Lexer) (token : Token) : Option Lexer := do
  let lexer ← lexer.dropKey
  let keys := if lexer.flow == 0 then lexer.keys else lexer.keys.drop 1
  return { (lexer.skip 1).push token with flow := lexer.flow - 1, keys, keyAllowed := false }

def readFlowEntry (lexer : Lexer) : Option Lexer := do
  let lexer ← lexer.dropKey
  return { (lexer.skip 1).push .flowEntry with keyAllowed := true }

/-- Opens a block collection where its mark stands, if one may begin there. -/
def openHere (lexer : Lexer) (token : Token) : Option Lexer :=
  if lexer.flow == 0 then
    if lexer.keyAllowed then some (lexer.openAt lexer.cursor.column none token) else none
  else some lexer

def readBlockEntry (lexer : Lexer) : Option Lexer := do
  let lexer ← (← lexer.openHere .blockSequence).dropKey
  return { (lexer.skip 1).push .blockEntry with keyAllowed := true }

def readKey (lexer : Lexer) : Option Lexer := do
  let lexer ← (← lexer.openHere .blockMapping).dropKey
  return { (lexer.skip 1).push .key with keyAllowed := lexer.flow == 0 }

def readValue (lexer : Lexer) : Option Lexer := do
  match lexer.keys with
  | some key :: rest =>
    let lexer := { lexer with keys := none :: rest }
    let lexer := lexer.insertAt key.number .key
    let lexer := lexer.openAt key.column (some key.number) .blockMapping
    return { (lexer.skip 1).push .value with keyAllowed := false }
  | _ =>
    let lexer ← lexer.openHere .blockMapping
    return { (lexer.skip 1).push .value with keyAllowed := lexer.flow == 0 }

/-- Reads a token that a key may begin with, and behind which no other may begin. -/
def readNode (lexer : Lexer) (read : Cursor → Option (Token × Cursor)) : Option Lexer := do
  let lexer ← lexer.noteKey
  let (token, cursor) ← read lexer.cursor
  return { lexer.push token with cursor, keyAllowed := false }

def readQuotedScalar (single : Bool) (c : Cursor) : Option (Token × Cursor) := do
  let (text, c) ← readQuoted single (c.rest.length + 1) [] (c.skip 1)
  return (.scalar false (String.ofList text), c)

def readBlockScalar (lexer : Lexer) (literal : Bool) : Option Lexer := do
  let lexer ← lexer.dropKey
  let (text, cursor) ← readBlock literal lexer.indent (lexer.cursor.skip 1)
  return { lexer.push (.scalar false (String.ofList text)) with cursor, keyAllowed := true }

def readPlainScalar (lexer : Lexer) : Option Lexer := do
  let lexer ← lexer.noteKey
  let c := lexer.cursor
  let (text, cursor, broken) ←
    readPlain (lexer.flow != 0) (lexer.indent + 1) (c.rest.length + 1) Gap.empty [] c
  return { lexer.push (.scalar true (String.ofList text)) with cursor, keyAllowed := broken }

/-- Whether a plain scalar may begin here. -/
def plainBegins (lexer : Lexer) (c : Cursor) (d : Char) : Bool :=
  !(isIndicator d || isBlank d || isBreak d)
    || (d == '-' && !(c.peekAt 1).any isBlank)
    || (lexer.flow == 0 && (d == '?' || d == ':') && !c.gapAt 1)

/-- Reads the token that begins with the character `d`. -/
def readToken (lexer : Lexer) (d : Char) : Option Lexer :=
  let c := lexer.cursor
  let flow := lexer.flow != 0
  if c.column == 0 && d == '%' then do
    let lexer ← lexer.leaveBlocks
    let (token, cursor) ← Token.readDirective c
    return { lexer.push token with cursor }
  else if c.atDocumentMark '-' then lexer.readMark .documentStart
  else if c.atDocumentMark '.' then lexer.readMark .documentEnd
  else if d == '[' then lexer.openFlow .flowSequence
  else if d == '\x7b' then lexer.openFlow .flowMapping
  else if d == ']' then lexer.closeFlow .flowSequenceEnd
  else if d == '\x7d' then lexer.closeFlow .flowMappingEnd
  else if d == ',' then lexer.readFlowEntry
  else if d == '-' && c.gapAt 1 then lexer.readBlockEntry
  else if d == '?' && (flow || c.gapAt 1) then lexer.readKey
  else if d == ':' && (flow || c.gapAt 1) then lexer.readValue
  else if d == '*' then
    lexer.readNode fun c ↦ (Token.readName c).map fun (name, c) ↦ (.reference name, c)
  else if d == '&' then
    lexer.readNode fun c ↦ (Token.readName c).map fun (name, c) ↦ (.anchor name, c)
  else if d == '!' then lexer.readNode (Token.readTag flow)
  else if d == '|' && !flow then lexer.readBlockScalar true
  else if d == '>' && !flow then lexer.readBlockScalar false
  else if d == '\'' then lexer.readNode (readQuotedScalar true)
  else if d == '"' then lexer.readNode (readQuotedScalar false)
  else if lexer.plainBegins c d then lexer.readPlainScalar
  else none

/-- Reads tokens to the end of the text; every one takes a character at least. -/
def run : Nat → Lexer → Option Lexer
  | 0, _ => none
  | fuel + 1, lexer => do
    let lexer ← (lexer.skipToToken (lexer.cursor.rest.length + 1)).dropStaleKeys
    let lexer := lexer.unindent lexer.cursor.column
    match lexer.cursor.peek with
    | none => lexer.readEnd
    | some d => run fuel (← lexer.readToken d)

end Lexer

/-- The tokens of a text of allowed characters. -/
def Token.ofText? (text : List Char) : Option (List Token) :=
  if text.all isAllowed then
    (Lexer.run (text.length + 1) { cursor := Cursor.ofText text }).map (·.tokens.reverse)
  else none

end ClusterObjects.Yaml
