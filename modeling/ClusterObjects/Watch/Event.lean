import ClusterObjects.Api.Reply
import ClusterObjects.Object.Basic

/-!
# Events of a watch

A watch is answered by a stream of lines, each of which reports a change of an object, a new version
of the collection, or an error. `StreamItem.ofLine?` says what a line means to the reader: an event,
the end of the stream, or nothing when the line has broken off.
-/

namespace ClusterObjects

inductive WatchEvent where
  | added (object : Object)
  | modified (object : Object)
  | deleted (object : Object)
  | bookmark (version : String)
  | error (cause : ApiError)
  deriving DecidableEq, Repr

namespace WatchEvent

/-- The version that a bookmark reports. -/
def bookmarkVersion? (value : Json) : Option String := do
  let _ ← value.text? "apiVersion"
  let _ ← value.text? "kind"
  let metadata ← value.get? "metadata"
  let version ← metadata.text? "resourceVersion"
  match metadata.get? "annotations" with
  | none => return version
  | some annotations =>
    let _ ← (Schema.map .string).decode? annotations
    return version

/-- The event of a type with a value; an error is read from the value as it is written. -/
def ofParts? (decode : Json → Option Object) (type : String) (value written : Json) :
    Option WatchEvent :=
  match type with
  | "ADDED" => (decode value).map added
  | "MODIFIED" => (decode value).map modified
  | "DELETED" => (decode value).map deleted
  | "BOOKMARK" => (bookmarkVersion? value).map bookmark
  | "ERROR" => (ApiError.ofStatus? written).map error
  | _ => none

/-- Reads an event: an object with a type and an object in it, neither of them repeated, or an array
of the two. It is given what was read and the same as it is written. -/
def ofJson? (decode : Json → Option Object) : (value written : Json) → Option WatchEvent
  | .obj members, .obj written => do
    guard (["type", "object"].all fun key ↦ !Json.isRepeated written key)
    let type ← (← Json.Members.get? members "type").str?
    ofParts? decode type (← Json.Members.get? members "object")
      (← Json.Members.get? written "object")
  | .arr [.str type, value], .arr [_, written] => ofParts? decode type value written
  | _, _ => none

end WatchEvent

/-- What a reader takes from a stream. -/
inductive StreamItem where
  | event (event : WatchEvent)
  | failure (cause : ApiError)
  deriving DecidableEq, Repr

namespace StreamItem

/-- What a line of a stream means. A line that has broken off is passed over. -/
def ofLine? (decode : Json → Option Object) (line : String) : Option StreamItem :=
  match Json.read line with
  | .error .ended => none
  | .error .malformed => some (.failure .undecodable)
  | .ok value =>
    match (Json.readWritten? line).bind (WatchEvent.ofJson? decode value) with
    | some found => some (.event found)
    | none => some (.failure ((ApiError.ofText? line).getD .undecodable))

/-- The lines of a text; `line` holds what has been read of the current one. -/
def linesFrom (line : List Char) : List Char → List String
  | [] => if line.isEmpty then [] else [String.ofList line.reverse]
  | c :: cs =>
    if c = '\n' then String.ofList line.reverse :: linesFrom [] cs else linesFrom (c :: line) cs

def ofBody (decode : Json → Option Object) (body : String) : List StreamItem :=
  (linesFrom [] body.toList).filterMap (ofLine? decode)

end StreamItem

end ClusterObjects
