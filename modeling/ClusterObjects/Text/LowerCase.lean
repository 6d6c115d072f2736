/-!
# Lower case for comparing with plain words

A text is lowered only to be compared with words of unaccented Latin letters. Of all characters,
exactly the capitals `A` to `Z` and the Kelvin sign have a lower case made of such letters, so the
others may stay as they are.
-/

namespace ClusterObjects.Text

def lowerChar (c : Char) : Char :=
  if 'A' ≤ c ∧ c ≤ 'Z' then Char.ofNat (c.toNat + 32)
  else if c = '\u212a' then 'k'
  else c

def lowerCase (s : String) : String := String.ofList (s.toList.map lowerChar)

end ClusterObjects.Text
