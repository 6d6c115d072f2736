import ClusterObjects.Json.Token
import ClusterObjects.Yaml.Char

/-!
# Scalars of a YAML text

The four ways to write a scalar: plain, in single or double quotes, and as a block. Inside the
first three, line breaks are folded: one break is a space, and of more all but the first stay. A
scalar that breaks a rule is not read at all.
-/

namespace ClusterObjects.Yaml

/-- The text that stands between two words of a scalar: blanks on one line, or line breaks. -/
structure Gap where
  blanks : List Char
  broken : Bool
  first : List Char
  more : List Char

namespace Gap

def empty : Gap := ⟨[], false, [], []⟩

/-- What the gap becomes in the scalar. -/
def text (gap : Gap) : List Char :=
  if gap.broken then
    match gap.first with
    | '\n' :: _ => if gap.more.isEmpty then [' '] else gap.more
    | first => first ++ gap.more
  else gap.blanks

end Gap

/-- Reads blanks and line breaks. With `indent` given, a tab before that column is refused on the
lines after the first. -/
def readGap (indent : Option Int) : Nat → Gap → Cursor → Option (Gap × Cursor)
  | 0, gap, c => some (gap, c)
  | fuel + 1, gap, c =>
    if c.sees isBlank then
      if gap.broken && c.is '\t' && indent.any (fun n ↦ decide ((c.column : Int) < n)) then none
      else
        let gap := if gap.broken then gap else { gap with blanks := gap.blanks ++ c.rest.take 1 }
        readGap indent fuel gap (c.skip 1)
    else if c.sees isBreak then
      let gap :=
        if gap.broken then { gap with more := gap.more ++ c.breakText }
        else { gap with blanks := [], broken := true, first := c.breakText }
      readGap indent fuel gap c.nextLine
    else some (gap, c)

/-- Where the word of a plain scalar ends; a colon before a flow mark is refused. -/
def plainWord (flow : Bool) : List Char → Option (List Char)
  | [] => some []
  | d :: rest =>
    if isBlank d || isBreak d then some []
    else if flow && d == ':' && rest.head?.any (fun e ↦ isFlowMark e || e == '?') then none
    else if d == ':' && rest.head?.all (fun e ↦ isBlank e || isBreak e) then some []
    else if flow && isFlowMark d then some []
    else (plainWord flow rest).map (d :: ·)

/-- Reads a plain scalar; `indent` is the column that its further lines have to reach. The last
part of the answer says whether line breaks were read behind it. -/
def readPlain (flow : Bool) (indent : Int) :
    Nat → Gap → List Char → Cursor → Option (List Char × Cursor × Bool)
  | 0, gap, seen, c => some (seen, c, gap.broken)
  | fuel + 1, gap, seen, c =>
    if c.atDocumentBoundary || c.is '#' then some (seen, c, gap.broken)
    else do
      let word ← plainWord flow c.rest
      let c := c.skip word.length
      let (seen, gap) := if word.isEmpty then (seen, gap) else (seen ++ gap.text ++ word, Gap.empty)
      if c.sees isBlank || c.sees isBreak then
        let (gap, c) ← readGap (some indent) c.rest.length gap c
        if !flow && (c.column : Int) < indent then some (seen, c, gap.broken)
        else readPlain flow indent fuel gap seen c
      else some (seen, c, gap.broken)

/-- The number of digits that an escape takes. -/
def escapeDigits (d : Char) : Nat :=
  if d == 'x' then 2 else if d == 'u' then 4 else if d == 'U' then 8 else 0

def escapedChar? (d : Char) : Option Char :=
  match d with
  | '0' => some '\x00'
  | 'a' => some '\x07'
  | 'b' => some '\x08'
  | 't' | '\t' => some '\t'
  | 'n' => some '\n'
  | 'v' => some '\x0b'
  | 'f' => some '\x0c'
  | 'r' => some '\r'
  | 'e' => some '\x1b'
  | ' ' => some ' '
  | '"' => some '"'
  | '/' => some '/'
  | '\\' => some '\\'
  | 'N' => some '\u0085'
  | '_' => some '\u00a0'
  | 'L' => some '\u2028'
  | 'P' => some '\u2029'
  | _ => none

/-- The character with a number, which must not be a surrogate. -/
def charOf? (n : Nat) : Option Char := if n.isValidChar then some (Char.ofNat n) else none

/-- Reads the characters of a quoted scalar up to a blank, a line break, the closing quote or an
escaped line break; the answer says whether it was the last. -/
def quotedWord (single : Bool) : Nat → Cursor → Option (List Char × Cursor × Bool)
  | 0, c => some ([], c, false)
  | fuel + 1, c =>
    match c.rest with
    | [] => some ([], c, false)
    | d :: rest =>
      let goOn (found : Char) (n : Nat) : Option (List Char × Cursor × Bool) := do
        let (more, c, escaped) ← quotedWord single fuel (c.skip n)
        return (found :: more, c, escaped)
      if isBlank d || isBreak d then some ([], c, false)
      else if single then
        if d == '\'' then
          if rest.head? == some '\'' then goOn '\'' 2 else some ([], c, false)
        else goOn d 1
      else if d == '"' then some ([], c, false)
      else if d == '\\' then
        match rest with
        | [] => none
        | e :: digits =>
          if isBreak e then some ([], (c.skip 1).nextLine, true)
          else
            match escapeDigits e with
            | 0 => do goOn (← escapedChar? e) 2
            | count => do
              let digits := digits.take count
              if digits.length < count then none
              let number ← Json.Token.hexNumber? digits
              goOn (← charOf? number) (2 + count)
      else goOn d 1

/-- Reads a quoted scalar behind its opening quote, up to and including the closing one. -/
def readQuoted (single : Bool) : Nat → List Char → Cursor → Option (List Char × Cursor)
  | 0, _, _ => none
  | fuel + 1, seen, c =>
    if c.atDocumentBoundary || c.atEnd then none
    else do
      let (word, c, escaped) ← quotedWord single (c.rest.length + 1) c
      let seen := seen ++ word
      if c.is (if single then '\'' else '"') then some (seen, c.skip 1)
      else
        let (gap, c) ← readGap none c.rest.length { Gap.empty with broken := escaped } c
        readQuoted single fuel (seen ++ gap.text) c

/-- What happens to the line breaks at the end of a block scalar. -/
inductive Chomping where
  | strip
  | clip
  | keep
  deriving DecidableEq

/-- The header of a block scalar: its chomping and, when given, its indentation. -/
def blockHeader (c : Cursor) : Option (Chomping × Option Nat × Cursor) :=
  let chomping (c : Cursor) : Option Chomping :=
    if c.is '+' then some .keep else if c.is '-' then some .strip else none
  let digit (c : Cursor) : Option Nat :=
    (c.peek.filter Char.isDigit).map fun d ↦ d.toNat - '0'.toNat
  match chomping c with
  | some how =>
    let c := c.skip 1
    match digit c with
    | some 0 => none
    | some n => some (how, some n, c.skip 1)
    | none => some (how, none, c)
  | none =>
    match digit c with
    | some 0 => none
    | some n =>
      let c := c.skip 1
      match chomping c with
      | some how => some (how, some n, c.skip 1)
      | none => some (.clip, some n, c)
    | none => some (.clip, none, c)

/-- Reads the empty lines of a block and the indentation of the line behind them. Without a known
`indent` all leading spaces are skipped, and the widest line found is reported; a tab among them is
refused. -/
def blockBreaks (indent : Option Nat) :
    Nat → Nat → List Char → Cursor → Option (Nat × List Char × Cursor)
  | 0, widest, breaks, c => some (widest, breaks, c)
  | fuel + 1, widest, breaks, c =>
    let spaces := (c.span (· == ' ')).1.length
    let spaces := match indent with
      | some n => min spaces (n - c.column)
      | none => spaces
    let c := c.skip spaces
    let widest := max widest c.column
    if c.is '\t' && indent.all (fun n ↦ decide (c.column < n)) then none
    else if c.sees isBreak then blockBreaks indent fuel widest (breaks ++ c.breakText) c.nextLine
    else some (widest, breaks, c)

/-- Reads the lines of a block. `newline` is the break behind the last line read, `breaks` the
empty lines since then, and `spaced` says that the last line began with a blank. -/
def blockLines (literal : Bool) (indent : Nat) (chomping : Chomping) :
    Nat → (seen newline breaks : List Char) → (spaced : Bool) → Cursor →
      Option (List Char × Cursor)
  | 0, _, _, _, _, _ => none
  | fuel + 1, seen, newline, breaks, spaced, c =>
    if c.column == indent && !c.atEnd then do
      let blank := c.sees isBlank
      let folds := !literal && newline.head? == some '\n' && !spaced && !blank
      let joint :=
        if folds then (if breaks.isEmpty then [' '] else []) else newline
      let (line, c) := c.span fun _ ↦ true
      let newline := c.breakText
      let (_, empty, c) ← blockBreaks (some indent) c.rest.length 0 [] c.skipBreak
      blockLines literal indent chomping fuel (seen ++ joint ++ breaks ++ line) newline empty
        blank c
    else
      let tail := match chomping with
        | .strip => []
        | .clip => newline
        | .keep => newline ++ breaks
      some (seen ++ tail, c)

/-- Reads a block scalar behind its indicator; `parent` is the indentation around it. -/
def readBlock (literal : Bool) (parent : Int) (c : Cursor) : Option (List Char × Cursor) := do
  let (chomping, given, c) ← blockHeader c
  let c ← c.restOfLine?
  let known := given.map fun n ↦ if 0 ≤ parent then parent.toNat + n else n
  let (widest, breaks, c) ← blockBreaks known c.rest.length 0 [] c
  let indent := known.getD (max (max widest (parent + 1).toNat) 1)
  blockLines literal indent chomping (c.rest.length + 1) [] [] breaks false c

end ClusterObjects.Yaml
