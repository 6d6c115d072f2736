import ClusterObjects.Json.Basic

/-!
# Settings of informers

Which namespace an informer covers, and how often it reports what it already knows.
-/

namespace ClusterObjects

structure InformerSettings where
  /-- The seconds between two reports; none are made when it is zero. -/
  resyncSeconds : UInt64 := 60
  /-- The namespace to cover; all of them when it is empty. -/
  namespaceName : String := ""
  deriving DecidableEq, Repr

namespace InformerSettings

/-- Reads settings; what is missing keeps its default. -/
def ofJson? : Json → Option InformerSettings
  | .obj members => do
    let defaults : InformerSettings := {}
    let resyncSeconds ← match Json.Members.get? members "resyncSeconds" with
      | none => some defaults.resyncSeconds
      | some (.num (.int n)) => if 0 ≤ n ∧ n < UInt64.size then some n.toNat.toUInt64 else none
      | some _ => none
    let namespaceName ← match Json.Members.get? members "namespace" with
      | none => some defaults.namespaceName
      | some value => value.str?
    return { resyncSeconds, namespaceName }
  | _ => none

end InformerSettings

end ClusterObjects
