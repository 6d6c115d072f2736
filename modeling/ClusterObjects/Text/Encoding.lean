/-!
# Encoded text

A text is in UTF-8, unless a mark at its beginning says that it is in one of the two orders of
UTF-16. The mark is no part of the text. Bytes that are no text can still be shown as one, with a
mark in the place of every piece that is no character.
-/

namespace ClusterObjects.Text

/-- The units of two bytes each. -/
def units16? (unit : UInt8 → UInt8 → Nat) : List UInt8 → Option (List Nat)
  | [] => some []
  | a :: b :: rest => do return unit a b :: (← units16? unit rest)
  | [_] => none

/-- The characters of 16-bit units, where two halves make one character beyond the first plane. -/
def chars16? : List Nat → Option (List Char)
  | [] => some []
  | u :: rest =>
    if u < 0xD800 || 0xE000 ≤ u then do return Char.ofNat u :: (← chars16? rest)
    else
      match rest with
      | v :: rest =>
        if u < 0xDC00 ∧ 0xDC00 ≤ v ∧ v < 0xE000 then do
          return Char.ofNat (0x10000 + (u - 0xD800) * 0x400 + (v - 0xDC00)) :: (← chars16? rest)
        else none
      | [] => none

def decode16? (unit : UInt8 → UInt8 → Nat) (bytes : List UInt8) : Option String := do
  return String.ofList (← chars16? (← units16? unit bytes))

def decode? (bytes : ByteArray) : Option String :=
  match bytes.toList with
  | 0xFF :: 0xFE :: rest => decode16? (fun low high ↦ 256 * high.toNat + low.toNat) rest
  | 0xFE :: 0xFF :: rest => decode16? (fun high low ↦ 256 * high.toNat + low.toNat) rest
  | 0xEF :: 0xBB :: 0xBF :: rest => String.fromUTF8? ⟨rest.toArray⟩
  | _ => String.fromUTF8? bytes

/-- The bytes of a text in UTF-8. -/
def bytesOf (cs : List Char) : List UInt8 := cs.flatMap String.utf8EncodeChar

/-- The mark in the place of what is no character. -/
def unknownChar : Char := '\ufffd'

/-- A character that has begun: its number so far, and the ranges of the bytes that are due. -/
structure Begun where
  number : Nat
  due : List (Nat × Nat)

/-- A character is read when no more bytes of it are due. -/
def Begun.settle (begun : Begun) : List Char × Option Begun :=
  if begun.due.isEmpty then ([Char.ofNat begun.number], none) else ([], some begun)

/-- The first byte of a character. The second one is limited, so that no number is written with more
bytes than it needs, is half of a character or lies beyond the last one. -/
def startWith (b : Nat) : List Char × Option Begun :=
  if b < 0x80 then Begun.settle ⟨b, []⟩
  else if 0xC2 ≤ b ∧ b < 0xE0 then Begun.settle ⟨b % 0x20, [(0x80, 0xBF)]⟩
  else if 0xE0 ≤ b ∧ b < 0xF0 then
    Begun.settle ⟨b % 0x10,
      [(if b = 0xE0 then 0xA0 else 0x80, if b = 0xED then 0x9F else 0xBF), (0x80, 0xBF)]⟩
  else if 0xF0 ≤ b ∧ b < 0xF5 then
    Begun.settle ⟨b % 0x08, [(if b = 0xF0 then 0x90 else 0x80, if b = 0xF4 then 0x8F else 0xBF),
      (0x80, 0xBF), (0x80, 0xBF)]⟩
  else ([unknownChar], none)

/-- The next byte, which begins a new character when it is not the one that is due. -/
def goOn (begun : Option Begun) (b : Nat) : List Char × Option Begun :=
  match begun with
  | some ⟨number, (low, high) :: due⟩ =>
    if low ≤ b ∧ b ≤ high then Begun.settle ⟨0x40 * number + b % 0x40, due⟩
    else (unknownChar :: (startWith b).1, (startWith b).2)
  | _ => startWith b

def charsFrom (begun : Option Begun) : List UInt8 → List Char
  | [] => if begun.isSome then [unknownChar] else []
  | b :: rest => (goOn begun b.toNat).1 ++ charsFrom (goOn begun b.toNat).2 rest

/-- The text that bytes are shown as. -/
def decodeLossy (bytes : List UInt8) : String := String.ofList (charsFrom none bytes)

end ClusterObjects.Text
