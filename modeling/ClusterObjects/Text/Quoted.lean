/-!
# Quoting a text for messages

A text in quotes shows every character that leaves no mark of its own by an escape: the controls,
the blanks other than the space, and the marks that combine with the character before them.
-/

namespace ClusterObjects.Text

/-- The ranges of characters beyond the controls that leave no mark of their own. -/
def invisibleRanges : List (Nat × Nat) :=
  [(0x7F, 0xA0), (0xAD, 0xAD), (0x300, 0x36F), (0x378, 0x379), (0x483, 0x489), (0x591, 0x5BD),
    (0x5BF, 0x5BF), (0x5C1, 0x5C2), (0x5C4, 0x5C5), (0x5C7, 0x5C7), (0x600, 0x605),
    (0x610, 0x61A), (0x61C, 0x61C), (0x64B, 0x65F), (0x670, 0x670), (0x6D6, 0x6DD),
    (0x6DF, 0x6E4), (0x6E7, 0x6E8), (0x6EA, 0x6ED), (0x93C, 0x93C), (0x94D, 0x94D),
    (0xE31, 0xE31), (0xE34, 0xE3A), (0xE47, 0xE4E), (0x1680, 0x1680), (0x180B, 0x180F),
    (0x1AB0, 0x1ACE), (0x1DC0, 0x1DFF), (0x2000, 0x200F), (0x2028, 0x202F), (0x205F, 0x206F),
    (0x20D0, 0x20F0), (0x302A, 0x302F), (0x3000, 0x3000), (0x3099, 0x309A), (0xD800, 0xF8FF),
    (0xFE00, 0xFE0F), (0xFE20, 0xFE2F), (0xFEFF, 0xFEFF), (0xFFF0, 0xFFFB), (0xFFFE, 0xFFFF),
    (0xE0000, 0x10FFFF)]

def isInvisible (c : Char) : Bool :=
  c.toNat < 32 || invisibleRanges.any fun (low, high) ↦ low ≤ c.toNat && c.toNat ≤ high

/-- An escape by the number of the character, in lower-case hexadecimal digits. -/
def numbered (c : Char) : List Char := ['\\', 'u', '\x7b'] ++ Nat.toDigits 16 c.toNat ++ ['\x7d']

def escapeChar (c : Char) : List Char :=
  if c = '\x00' then ['\\', '0']
  else if c = '\t' then ['\\', 't']
  else if c = '\r' then ['\\', 'r']
  else if c = '\n' then ['\\', 'n']
  else if c = '"' then ['\\', '"']
  else if c = '\\' then ['\\', '\\']
  else if isInvisible c then numbered c
  else [c]

def quoted (s : String) : String :=
  String.ofList ('"' :: (s.toList.flatMap escapeChar ++ ['"']))

end ClusterObjects.Text
