import ClusterObjects.Json.Token

/-!
# Reading JSON

`Json.read` turns a text into a value. It walks over the tokens with a stack of the containers that
are still open, of which there may be 127. A member that is written twice keeps its last value. A
reader that refuses such members has to see them: `Json.readWritten?` keeps them all.
-/

namespace ClusterObjects.Json

/-- A container that is still open: the items so far, or the members so far and the key whose
value is being read, the latest first. -/
inductive Frame where
  | items (done : List Json)
  | members (done : List (String × Json)) (key : String)

/-- What may come next: a value, or also the end of an empty array; a key, or also the end of an
empty object; the colon behind a key; what follows a finished value. -/
inductive Expecting where
  | value (orEnd : Bool)
  | key (orEnd : Bool) (done : List (String × Json))
  | colon (done : List (String × Json)) (key : String)
  | after (value : Json)

def maxDepth : Nat := 127

/-- Reads a value, where `close` makes an object of the members that were written. -/
def readTokens (close : List (String × Json) → Json) :
    Expecting → List Frame → List Token → Except Fault Json
  | .after value, [], [] => .ok value
  | _, _, [] => .error .ended
  | .value orEnd, stack, token :: rest =>
    match token with
    | .atom value => readTokens close (.after value) stack rest
    | .str s => readTokens close (.after (.str s)) stack rest
    | .broken _ fault => .error fault
    | .mark c =>
      if c = '[' then
        if stack.length < maxDepth then readTokens close (.value true) (.items [] :: stack) rest
        else .error .malformed
      else if c = '\x7b' then
        if stack.length < maxDepth then readTokens close (.key true []) stack rest
        else .error .malformed
      else if c = ']' ∧ orEnd then
        match stack with
        | .items _ :: stack => readTokens close (.after (.arr [])) stack rest
        | _ => .error .malformed
      else .error .malformed
  | .key orEnd done, stack, token :: rest =>
    match token with
    | .str key => readTokens close (.colon done key) stack rest
    | .broken true fault => .error fault
    | .mark c =>
      if c = '\x7d' ∧ orEnd then readTokens close (.after (.obj [])) stack rest
      else .error .malformed
    | .broken false _ | .atom _ => .error .malformed
  | .colon done key, stack, token :: rest =>
    match token with
    | .mark ':' => readTokens close (.value false) (.members done key :: stack) rest
    | _ => .error .malformed
  | .after value, .items done :: stack, token :: rest =>
    match token with
    | .mark ',' => readTokens close (.value false) (.items (value :: done) :: stack) rest
    | .mark ']' => readTokens close (.after (.arr (value :: done).reverse)) stack rest
    | _ => .error .malformed
  | .after value, .members done key :: stack, token :: rest =>
    match token with
    | .mark ',' => readTokens close (.key false ((key, value) :: done)) stack rest
    | .mark '\x7d' => readTokens close (.after (close ((key, value) :: done).reverse)) stack rest
    | _ => .error .malformed
  | .after _, [], _ :: _ => .error .malformed

/-- The value that a text denotes. -/
def read (text : String) : Except Fault Json := readTokens object (.value false) [] (tokens text)

def read? (text : String) : Option Json := (read text).toOption

/-- What a text denotes, with all members of its objects as they are written. -/
def readWritten? (text : String) : Option Json :=
  (readTokens .obj (.value false) [] (tokens text)).toOption

/-- Whether a member is written more than once. -/
def isRepeated (members : List (String × Json)) (key : String) : Bool :=
  1 < (members.filter fun written ↦ written.1 == key).length

end ClusterObjects.Json
