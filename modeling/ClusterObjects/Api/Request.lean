import ClusterObjects.Error
import ClusterObjects.Text.Query

/-!
# Requests

A request names a place by a path and a query, both below the server's own address. The two are
written as one text, so a question mark or a hash in the path ends the path early, and a path with a
character that no address may have makes no request at all. Neither does a text that is too long.
-/

namespace ClusterObjects

inductive Method where
  | get
  | post
  | put
  | patch
  | delete
  deriving DecidableEq, Repr

structure Request where
  method : Method
  path : String
  query : List (String × String)
  contentType : Option String
  body : Option Json
  deriving DecidableEq, Repr

def Method.name : Method → String
  | get => "GET"
  | post => "POST"
  | put => "PUT"
  | patch => "PATCH"
  | delete => "DELETE"

namespace Request

/-- The characters that may stand in the path of an address. -/
def isPathChar (c : Char) : Bool :=
  let n := c.toNat
  n == 0x21 || n == 0x22 || (0x24 ≤ n && n ≤ 0x3B) || n == 0x3D || (0x40 ≤ n && n ≤ 0x5F)
    || (0x61 ≤ n)

/-- The characters that may stand in the query of an address. -/
def isQueryChar (c : Char) : Bool :=
  let n := c.toNat
  n == 0x21 || (0x24 ≤ n && n ≤ 0x3B) || n == 0x3D || (0x3F ≤ n)

/-- A request to an address that is written as one text. -/
def ofAddress? (method : Method) (address : List Char) (contentType : Option String)
    (body : Option Json) : Option Request :=
  let path := address.takeWhile fun c ↦ c != '?' && c != '#'
  let query := match address.drop path.length with
    | '?' :: rest => rest.takeWhile (· != '#')
    | _ => []
  if path.all isPathChar && query.all isQueryChar then
    some { method, path := String.ofList path, query := Text.Query.decode query, contentType, body }
  else none

/-- The longest address, in bytes. -/
def maxAddressLength : Nat := 65534

/-- What an address has behind its path: a question mark and the query, or nothing at all. -/
def behindPath : Option (List (String × String)) → List Char
  | some pairs => '?' :: Text.Query.encode pairs
  | none => []

/-- Whether the address of a path with a query has no more than the bytes that it may have. -/
def addressFits (path : String) (query? : Option (List (String × String))) : Bool :=
  path.utf8ByteSize + (behindPath query?).length ≤ maxAddressLength

/-- A request to a path with a query, when its address may be written at all. What is behind a path
that nothing ends early is read back as it was. -/
def build? (method : Method) (path : String) (query? : Option (List (String × String)))
    (contentType : Option String) (body : Option Json) : Option Request :=
  if !addressFits path query? then none
  else if path.toList.any fun c ↦ c == '?' || c == '#' then
    ofAddress? method (path.toList ++ behindPath query?) contentType body
  else if path.toList.all isPathChar then
    some { method, path, query := query?.getD [], contentType, body }
  else none

end Request

end ClusterObjects
