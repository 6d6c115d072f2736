import ClusterObjects.Json.Token
import ClusterObjects.Text.Encoding

/-!
# Pairs of texts in a query

A query writes pairs of texts, each behind an ampersand and with an equals sign inside. Other
characters than unaccented letters, digits and four marks are written as their bytes; a space is a
plus sign. What is read need not be written so: a pair without an equals sign has an empty value,
and an escape that is none stands for itself.
-/

namespace ClusterObjects.Text.Query

def isPlain (b : UInt8) : Bool :=
  (Char.ofNat b.toNat).isAlphanum && b < 0x80
    || b == 0x2A || b == 0x2D || b == 0x2E || b == 0x5F

def hexByte (b : UInt8) : List Char :=
  ['%', (Nat.digitChar (b.toNat / 16)).toUpper, (Nat.digitChar (b.toNat % 16)).toUpper]

def encodeByte (b : UInt8) : List Char :=
  if b == 0x20 then ['+'] else if isPlain b then [Char.ofNat b.toNat] else hexByte b

def encodeText (s : String) : List Char := (bytesOf s.toList).flatMap encodeByte

def encodePair (pair : String × String) : List Char :=
  encodeText pair.1 ++ '=' :: encodeText pair.2

/-- The text of a query. The first pair has an ampersand before it like the others. -/
def encode (pairs : List (String × String)) : List Char :=
  pairs.flatMap fun pair ↦ '&' :: encodePair pair

/-- The bytes of a text that may hold escapes; what is no whole escape stands for itself. -/
def decodeBytes : List Char → List UInt8
  | [] => []
  | '+' :: cs => 0x20 :: decodeBytes cs
  | '%' :: a :: b :: cs =>
    match Json.Token.hexNumber? [a, b] with
    | some n => n.toUInt8 :: decodeBytes cs
    | none => 0x25 :: decodeBytes (a :: b :: cs)
  | c :: cs => String.utf8EncodeChar c ++ decodeBytes cs
termination_by cs => cs.length

def decodeText (cs : List Char) : String := decodeLossy (decodeBytes cs)

def decodePair (cs : List Char) : String × String :=
  let key := cs.takeWhile (· != '=')
  (decodeText key, decodeText (cs.drop (key.length + 1)))

/-- The parts between ampersands; `part` holds what has been read of the current one. -/
def parts (part : List Char) : List Char → List (List Char)
  | [] => [part.reverse]
  | c :: cs => if c = '&' then part.reverse :: parts [] cs else parts (c :: part) cs

def decode (cs : List Char) : List (String × String) :=
  ((parts [] cs).filter fun part ↦ !part.isEmpty).map decodePair

end ClusterObjects.Text.Query
