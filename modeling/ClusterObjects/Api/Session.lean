import ClusterObjects.Api.Reply
import ClusterObjects.Kind

/-!
# Sessions with a server

A session is a conversation with a server. The server is a script, the replies to the requests to
come; what a session records is the requests sent so far. Beside the server a session knows where
the kinds of objects are served, which it learns in the course of the conversation.
-/

namespace ClusterObjects

/-- Where a kind is served. -/
structure Mapping where
  group : String
  version : String
  apiVersion : String
  kind : String
  plural : String
  namespaced : Bool
  deriving DecidableEq, Repr

structure Session where
  /-- The replies to the requests to come. -/
  script : List Reply
  /-- The reply to every request beyond the script. -/
  beyond : Reply := Reply.noMore
  /-- The requests sent, the last one first. -/
  sent : List Request := []
  mappings : List (GroupVersionKind × Mapping) := []

/-- An operation that talks to the server and may fail. -/
abbrev Exchange := ExceptT Error (StateM Session)

namespace Session

/-- The requests sent, in their order. -/
def requests (session : Session) : List Request := session.sent.reverse

def next (session : Session) : Reply := session.script.head?.getD session.beyond

/-- Sends a request and takes the server's next reply. -/
def send (request : Request) : StateM Session Reply := fun session ↦
  (session.next, { session with script := session.script.drop 1, sent := request :: session.sent })

end Session

namespace Exchange

def fail {α : Type} (error : Error) : Exchange α := throw error

def failApi {α : Type} (error : ApiError) : Exchange α := throw (.api error)

def lift {α : Type} (result : Except Error α) : Exchange α :=
  match result with
  | .ok value => return value
  | .error error => throw error

/-- Sends a request, if it could be built. -/
def open? (request : Option Request) (unbuilt : ApiError := .badRequest) :
    Exchange (Request × Reply) :=
  match request with
  | some request => do return (request, ← ExceptT.lift (Session.send request))
  | none => failApi unbuilt

/-- The value in the body of a successful answer. -/
def call (request : Option Request) (unbuilt : ApiError := .badRequest) : Exchange Json := do
  let (request, reply) ← open? request unbuilt
  match reply.result request with
  | .error error => failApi error
  | .ok body =>
    match Json.read? body with
    | some value => return value
    | none => failApi .undecodable

/-- A decoded value, where an answer that does not decode is an error. -/
def decoded {α : Type} (value : Option α) : Exchange α :=
  match value with
  | some value => return value
  | none => failApi .undecodable

end Exchange

end ClusterObjects
