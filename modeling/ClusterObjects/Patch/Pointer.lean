import ClusterObjects.Json.Basic

/-!
# Pointers into JSON values

A pointer is a list of tokens, each a key or an index. Its text puts a slash before each token and
writes a tilde as `~0` and a slash as `~1`; `Pointer.parse?` accepts exactly the texts in which
every tilde begins one of the two.
-/

namespace ClusterObjects

abbrev Pointer := List String

namespace Pointer

def escapeChar (c : Char) : List Char :=
  if c = '~' then ['~', '0'] else if c = '/' then ['~', '1'] else [c]

def writeToken (token : String) : List Char := '/' :: token.toList.flatMap escapeChar

def text (pointer : Pointer) : String := String.ofList (pointer.flatMap writeToken)

/-- Reads tokens; `token` is what has been read of the current one, last character first. -/
def parseFrom (token : List Char) : List Char → Option Pointer
  | [] => some [String.ofList token.reverse]
  | '/' :: cs => (parseFrom [] cs).map (String.ofList token.reverse :: ·)
  | '~' :: '0' :: cs => parseFrom ('~' :: token) cs
  | '~' :: '1' :: cs => parseFrom ('/' :: token) cs
  | c :: cs => if c = '~' then none else parseFrom (c :: token) cs

def parse? (text : String) : Option Pointer :=
  match text.toList with
  | [] => some []
  | '/' :: cs => parseFrom [] cs
  | _ => none

end Pointer

end ClusterObjects
