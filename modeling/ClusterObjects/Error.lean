import ClusterObjects.Patch.Operation

/-!
# Errors

Every way in which an operation on objects can fail, by its cause. `Error.message` is the text
shown for it; errors that come from the server have a status code.
-/

namespace ClusterObjects

/-- What went wrong in an exchange with the server. -/
inductive ApiError where
  /-- The server answered with an error status. -/
  | status (code : Nat) (reason message : String)
  /-- The connection failed. -/
  | connection
  /-- A successful answer could not be decoded. -/
  | undecodable
  /-- The request could not be built. -/
  | badRequest
  /-- The address of a discovery cannot be written down. -/
  | badAddress
  /-- The answer never comes to its end. -/
  | unanswered
  /-- A discovery answer does not have the kind. -/
  | unknownKind
  deriving DecidableEq, Repr

inductive PatchFault where
  | notAList
  deriving DecidableEq, Repr

inductive InputFault where
  | manifestNotObject
  | documentNotObject
  | valueNotObject
  | nameForObject
  | nameForPatch
  deriving DecidableEq, Repr

inductive Error where
  | unreadable (path : String)
  | yaml
  | json
  | kindMismatch (found expected : String)
  | missingName
  | missingGvk
  | discovery (apiVersion kind : String) (cause : ApiError)
  | invalidPatch (fault : PatchFault)
  | invalidInput (fault : InputFault)
  | api (cause : ApiError)
  deriving DecidableEq, Repr

def PatchFault.message : PatchFault → String
  | notAList => "a JSON patch must be an array of operations"

def InputFault.message : InputFault → String
  | manifestNotObject => "manifest is not an object"
  | documentNotObject => "manifest document is not an object"
  | valueNotObject => "object does not serialize to a map"
  | nameForObject => "expected an object, got a name"
  | nameForPatch => "a patch cannot be a name"

namespace ApiError

def statusCode : ApiError → Option Nat
  | status code _ _ => some code
  | _ => none

end ApiError

namespace Error

/-- The text of an error of this library; errors of an exchange have none of their own. -/
def message : Error → Option String
  | unreadable path => some ("failed to read " ++ path)
  | yaml => some "failed to parse YAML document"
  | json => some "failed to convert object"
  | kindMismatch found expected => some ("object is " ++ found ++ ", expected " ++ expected)
  | missingName => some "object has no metadata.name"
  | missingGvk => some "object has no apiVersion/kind, call with_gvk first"
  | discovery apiVersion kind _ =>
    some ("failed to discover resource " ++ apiVersion ++ "/" ++ kind)
  | invalidPatch fault => some ("invalid patch: " ++ fault.message)
  | invalidInput fault => some ("invalid input: " ++ fault.message)
  | api _ => none

/-- The status code that came from the server. -/
def statusCode : Error → Option Nat
  | api cause => cause.statusCode
  | discovery _ _ cause => cause.statusCode
  | _ => none

def isAlreadyExists (error : Error) : Bool := error.statusCode == some 409

def isNotFound (error : Error) : Bool := error.statusCode == some 404

end Error

end ClusterObjects
