import ClusterObjects.Json.Basic
import ClusterObjects.Decimal.Shortest

/-!
# The compact text of a JSON value

`Json.text` writes a value without any blanks. Strings escape the quote, the backslash and the
control characters below the space; floats are written with the fewest digits that read back, with
an exponent only when they are far from one.
-/

namespace ClusterObjects

namespace Number

/-- Floats between `10 ^ (-5)` and `10 ^ 16` are written without an exponent. -/
def layout : Decimal.Layout := ⟨-5, 16, true⟩

def text : Number → String
  | .int n => toString n
  | .float x => x.text layout

end Number

namespace Json

/-- The two lower-case hexadecimal digits of a number below 256. -/
def hexPair (n : Nat) : List Char := [Nat.digitChar (n / 16), Nat.digitChar (n % 16)]

def escape (c : Char) : List Char :=
  if c = '"' then ['\\', '"']
  else if c = '\\' then ['\\', '\\']
  else if c = '\n' then ['\\', 'n']
  else if c = '\r' then ['\\', 'r']
  else if c = '\t' then ['\\', 't']
  else if c = '\x08' then ['\\', 'b']
  else if c = '\x0c' then ['\\', 'f']
  else if c.toNat < 32 then ['\\', 'u', '0', '0'] ++ hexPair c.toNat
  else [c]

def quoted (s : String) : List Char := '"' :: (s.toList.flatMap escape ++ ['"'])

mutual

def write : Json → List Char
  | .null => "null".toList
  | .bool true => "true".toList
  | .bool false => "false".toList
  | .num n => n.text.toList
  | .str s => quoted s
  | .arr items => '[' :: (writeItems items ++ [']'])
  | .obj members => '\x7b' :: (writeMembers members ++ ['\x7d'])

def writeItems : List Json → List Char
  | [] => []
  | item :: rest =>
    match rest with
    | [] => write item
    | _ :: _ => write item ++ ',' :: writeItems rest

def writeMembers : Members → List Char
  | [] => []
  | (key, value) :: rest =>
    match rest with
    | [] => quoted key ++ ':' :: write value
    | _ :: _ => quoted key ++ ':' :: (write value ++ ',' :: writeMembers rest)

end

def text (value : Json) : String := String.ofList (write value)

end Json

end ClusterObjects
