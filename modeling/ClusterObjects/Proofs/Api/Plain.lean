import ClusterObjects.Api.Endpoint
import ClusterObjects.Proofs.Api.Address

/-!
# Plain paths

A path of characters that may all stand in a path can always be written down, unless it is too long,
and the request to it is what it was meant to be. The collections of the known kinds have such
paths, as far as the name of the namespace is plain.
-/

namespace ClusterObjects

namespace Request

/-- A path whose characters may all stand in a path. -/
def IsPlain (path : String) : Prop := ∀ c ∈ path.toList, isPathChar c

instance (path : String) : Decidable (IsPlain path) :=
  decidable_of_iff (path.toList.all isPathChar = true) List.all_eq_true

theorem isPlain_append {first second : String} :
    IsPlain (first ++ second) ↔ IsPlain first ∧ IsPlain second := by
  simp [IsPlain, or_imp, forall_and]

theorem isWhole_of_isPlain {path : String} (h : IsPlain path) : IsWhole path :=
  ⟨fun hmem ↦ absurd (h _ hmem) (by decide), fun hmem ↦ absurd (h _ hmem) (by decide)⟩

theorem build?_of_isPlain {path : String} (h : IsPlain path) (method : Method)
    (query? : Option (List (String × String))) (contentType : Option String)
    (body : Option Json) :
    build? method path query? contentType body =
      if addressFits path query? then
        some { method, path, query := query?.getD [], contentType, body }
      else none := by
  have hall : path.toList.all isPathChar = true := List.all_eq_true.mpr h
  simp only [build?, isWhole_iff.mp (isWhole_of_isPlain h), hall, Bool.false_eq_true, if_false,
    if_true]
  cases addressFits path query? <;> rfl

end Request

theorem isPlain_path_ofKind (kind : Kind) {scope? : Option String}
    (hscope : ∀ name, scope? = some name → Request.IsPlain name) :
    Request.IsPlain (Endpoint.ofKind kind scope?).path := by
  have hkind : Request.IsPlain kind.apiVersion ∧ Request.IsPlain kind.plural := by
    cases kind <;> decide +kernel
  have hroot : Request.IsPlain (if kind.group.isEmpty then "/api/" else "/apis/") := by
    split <;> decide
  have hfixed : Request.IsPlain "/" ∧ Request.IsPlain "namespaces/" ∧ Request.IsPlain "" := by
    decide
  unfold Endpoint.ofKind collectionPath
  generalize (if kind.group.isEmpty then "/api/" else "/apis/") = root at hroot ⊢
  rcases hplace : (if kind.namespaced then scope? else none) with _ | name
  · simp [Request.isPlain_append, hroot, hfixed, hkind]
  · have hname : Request.IsPlain name := by
      split at hplace
      · exact hscope name hplace
      · cases hplace
    simp [Request.isPlain_append, hroot, hfixed, hkind, hname]

end ClusterObjects
