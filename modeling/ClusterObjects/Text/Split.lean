/-!
# Texts in parts

A text is split at every separator, so that it has one part more than separators. Parts may be
empty.
-/

namespace ClusterObjects.Text

/-- The parts between separators; `part` holds what has been read of the current one, backwards. -/
def splitFrom (separator : Char) (part : List Char) : List Char → List (List Char)
  | [] => [part.reverse]
  | c :: cs =>
    if c == separator then part.reverse :: splitFrom separator [] cs
    else splitFrom separator (c :: part) cs

def split (separator : Char) (text : String) : List String :=
  (splitFrom separator [] text.toList).map String.ofList

end ClusterObjects.Text
