/-!
# How to reach clusters

A kubeconfig names clusters, and contexts: a context is a cluster with a namespace to work in.
Several kubeconfigs make one, in which the first to name something decides.
-/

namespace ClusterObjects

structure Cluster where
  server : Option String
  deriving DecidableEq, Repr

structure ClusterContext where
  cluster : String
  namespaceName : Option String
  deriving DecidableEq, Repr

structure Kubeconfig where
  kind : Option String := none
  apiVersion : Option String := none
  currentContext : Option String := none
  /-- The clusters by their name; a name may stand for nothing. -/
  clusters : List (String × Option Cluster) := []
  contexts : List (String × Option ClusterContext) := []
  deriving DecidableEq, Repr

/-- Where requests go, and the namespace that goes with the server. -/
structure Target where
  server : String
  namespaceName : String
  deriving DecidableEq, Repr

namespace Kubeconfig

/-- Whether two values that may be absent do not contradict each other. -/
def agree (a b : Option String) : Bool := a.isNone || b.isNone || a == b

/-- Entries, and those of others whose names are new. -/
def addNew {α : Type} (entries others : List (String × α)) : List (String × α) :=
  entries ++ others.filter fun (name, _) ↦ !entries.any (·.1 == name)

/-- Two kubeconfigs as one; they have to be of one kind. -/
def merge (first second : Kubeconfig) : Option Kubeconfig :=
  if agree first.kind second.kind && agree first.apiVersion second.apiVersion then
    some {
      kind := first.kind.or second.kind
      apiVersion := first.apiVersion.or second.apiVersion
      currentContext := first.currentContext.or second.currentContext
      clusters := addNew first.clusters second.clusters
      contexts := addNew first.contexts second.contexts }
  else none

/-- The characters of addresses. -/
def isAddressChar (c : Char) : Bool :=
  0x21 ≤ c.toNat && c.toNat ≤ 0x7E
    && !(['"', '<', '>', '\\', '^', '\x60', '\x7b', '|', '\x7d'].contains c)

/-- Whether a host, perhaps with a port and with credentials before it, can be meant. -/
def isAuthority (text : List Char) : Bool :=
  let host := (text.reverse.takeWhile (· != '@')).reverse
  !host.isEmpty && !host.contains '%' && (host.head? == some '[' || host.count ':' ≤ 1)

/-- What stands before the first colon with two slashes behind it, if there is one. -/
def scheme? : List Char → Option (List Char)
  | [] => none
  | ':' :: '/' :: '/' :: _ => some []
  | c :: rest => (scheme? rest).map (c :: ·)

/-- Whether an address can be read: a path, a host, or a scheme with a host and what follows. -/
def isAddress (text : String) : Bool :=
  let cs := text.toList
  let endsHost (c : Char) : Bool := c == '/' || c == '?' || c == '#'
  cs.all isAddressChar &&
    match scheme? cs with
    | none => cs.head? == some '/' || cs == ['*'] || (isAuthority cs && !cs.any endsHost)
    | some scheme =>
      !scheme.isEmpty && isAuthority ((cs.drop (scheme.length + 3)).takeWhile fun c ↦ !endsHost c)

/-- What a context leads to, which is the current one unless another is named. -/
def target? (kubeconfig : Kubeconfig) (context : Option String) : Option Target := do
  let context ← kubeconfig.contexts.lookup (← context.or kubeconfig.currentContext)
  let context ← context
  let cluster ← kubeconfig.clusters.lookup context.cluster
  let server ← (← cluster).server
  if isAddress server then
    return { server, namespaceName := context.namespaceName.getD "default" }
  else none

end Kubeconfig

end ClusterObjects
