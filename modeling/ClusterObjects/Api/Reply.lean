import ClusterObjects.Api.Request
import ClusterObjects.Json.Reader
import ClusterObjects.Json.Text
import ClusterObjects.Text.Quoted

/-!
# Replies

What a server may do with a request: answer it, with a body that may stay open, close the
connection, or keep silent. An answer with an error status carries a status object that says more.
-/

namespace ClusterObjects

inductive Body where
  | text (text : String)
  /-- The body of the request. -/
  | echo
  deriving DecidableEq, Repr

inductive Reply where
  | answer (status : Nat) (body : Body) (staysOpen : Bool)
  | abort
  | silence
  deriving DecidableEq, Repr

def Body.textFor (request : Request) : Body → String
  | text s => s
  | echo => (request.body.map Json.text).getD ""

/-- A number of 16 bits. -/
def Json.code? : Json → Option Nat
  | .num (.int n) => if 0 ≤ n ∧ n < UInt16.size then some n.toNat else none
  | _ => none

/-- A member that is a text, or empty when it is missing. -/
def Json.textOrEmpty? (members : Json.Members) (key : String) : Option String :=
  match Json.Members.get? members key with
  | none => some ""
  | some value => value.str?

namespace ApiError

/-- Reads the status object of an error, as it is written: no member of it may be repeated. -/
def ofStatus? : Json → Option ApiError
  | .obj members => do
    guard (["status", "message", "reason", "code"].all fun key ↦ !Json.isRepeated members key)
    let _ ← (← Json.Members.get? members "status").str?
    let code ← (← Json.Members.get? members "code").code?
    let reason ← Json.textOrEmpty? members "reason"
    let message ← Json.textOrEmpty? members "message"
    return .status code reason message
  | .arr [.str _, .str message, .str reason, code] => do
    return .status (← code.code?) reason message
  | _ => none

def ofText? (text : String) : Option ApiError := (Json.readWritten? text).bind ofStatus?

/-- The error of an answer with an error status. A body that is no status object is quoted. -/
def ofAnswer (status : Nat) (body : String) : ApiError :=
  match ofText? body with
  | some error => error
  | none => .status status "Failed to parse error data" (Text.quoted body)

end ApiError

namespace Reply

/-- Whether a status says that the request failed. -/
def isFailure (status : Nat) : Bool := 400 ≤ status && status < 600

/-- The body of a successful answer that has ended. -/
def result (request : Request) : Reply → Except ApiError String
  | abort => .error .connection
  | silence => .error .unanswered
  | answer status body staysOpen =>
    if staysOpen then .error .unanswered
    else if isFailure status then .error (.ofAnswer status (body.textFor request))
    else .ok (body.textFor request)

/-- The answer of a server that has nothing more to say. -/
def noMore : Reply :=
  .answer 503
    (.text (Json.object
      [("kind", .str "Status"), ("apiVersion", .str "v1"), ("metadata", .obj []),
        ("status", .str "Failure"), ("message", .str "no more responses"),
        ("reason", .str "ServiceUnavailable"), ("code", .int 503)]).text) false

end Reply

/-- Reads the status object that a server may answer a deletion with. -/
def isStatusObject (value : Json) : Bool :=
  match value with
  | .obj members =>
    let optionalText (key : String) : Bool := (Json.textOrEmpty? members key).isSome
    let outcome := match Json.Members.get? members "status" with
      | none | some .null => true
      | some s => s == .str "Success" || s == .str "Failure"
    let code := match Json.Members.get? members "code" with
      | none => true
      | some n => n.code?.isSome
    outcome && code && optionalText "message" && optionalText "reason"
  | _ => false

end ClusterObjects
