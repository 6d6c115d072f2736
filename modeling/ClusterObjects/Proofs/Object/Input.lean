import ClusterObjects.Object.Input
import ClusterObjects.Proofs.Yaml.JsonText

/-!
# Objects handed over as JSON text

Bytes are read as YAML, whatever they hold. The compact JSON text of an object is read as that
object, and so as the same object of every kind as its members, for every number of 64 bits and
every depth within the limit, when its texts and keys are kept. JSON leaves characters without an
escape that YAML refuses or takes for line breaks, and YAML refuses keys that are long: then the
two forms of one object differ.
-/

namespace ClusterObjects

open Json (Members)
open Yaml (keepsKey keepsText)

theorem documentValue_eq (data : ByteArray) :
    documentValue data = (Yaml.document? data).elim (.error .yaml) .ok := by
  unfold documentValue
  cases Yaml.document? data <;> rfl

/-- The value that the text of an object is read as, when it is read. -/
theorem documentValue_text {members : Members}
    (h : Yaml.Readable Yaml.maxNesting (.obj members)) :
    documentValue (Json.obj members).text.toUTF8 =
      (if (Json.obj members).write.all Yaml.isAllowed then Yaml.folded? (.obj members)
        else none).elim (.error .yaml) .ok := by
  rw [documentValue_eq, Yaml.document?_text h]

/-- The text of an object is read as the object just when its texts and its keys are, and then the
text and the members are the same input for every kind. -/
theorem documentValue_text_eq_iff {members : Members} (hwellFormed : (Json.obj members).WellFormed)
    (hnumbers : ∀ n ∈ (Json.obj members).numbers, n.Fits)
    (hnesting : (Json.obj members).nesting ≤ 100) :
    (documentValue (Json.obj members).text.toUTF8 = .ok (.obj members) ↔
      (∀ s ∈ (Json.obj members).texts, keepsText s) ∧
        ∀ key ∈ (Json.obj members).keys, keepsKey key) ∧
    ((∀ s ∈ (Json.obj members).texts, keepsText s) ∧
        (∀ key ∈ (Json.obj members).keys, keepsKey key) →
      ∀ kind : Kind, Input.typed kind (.bytes (Json.obj members).text.toUTF8) =
        Input.typed kind (.map members)) := by
  have hreadable : Yaml.Readable Yaml.maxNesting (.obj members) :=
    ⟨hwellFormed, hnumbers, Nat.le_trans hnesting (by decide)⟩
  have hvalue : documentValue (Json.obj members).text.toUTF8 = .ok (.obj members) ↔
      (Json.obj members).EveryString keepsText keepsKey := by
    rw [← Yaml.document?_text_eq_some_iff hreadable, documentValue_eq]
    cases Yaml.document? (Json.obj members).text.toUTF8 <;> simp
  refine ⟨hvalue, fun hkept kind ↦ ?_⟩
  rw [Input.typed, hvalue.mpr hkept]
  rfl

/-- Line breaks with an escape, a separator of lines within a text and every form of number are
read as they were. -/
theorem manifest_text_read_alike :
    let members : Members :=
      [("data", .obj [("a b: ", .str "x\n\ty: [z],\u2028w #"), ("e", .str "")]),
        ("list", .arr [.null, .bool true, .int (-9223372036854775808), .int 18446744073709551615,
          .num (.float ⟨false, 6755399441055744, 1022⟩)]),
        ("metadata", .obj [("name", .str "settings")])]
    documentValue (Json.obj members).text.toUTF8 = .ok (.obj members) ∧
      ∀ kind : Kind, Input.typed kind (.bytes (Json.obj members).text.toUTF8) =
        Input.typed kind (.map members) := by
  intro members
  have hmembers : (∀ s ∈ (Json.obj members).texts, keepsText s) ∧
      ∀ key ∈ (Json.obj members).keys, keepsKey key := by decide
  obtain ⟨hvalue, htyped⟩ := @documentValue_text_eq_iff members (by decide) (by decide) (by decide)
  exact ⟨hvalue.mpr hmembers, htyped hmembers⟩

/-- The next-line character is no line break in JSON, but one in YAML, where it is folded. -/
theorem exists_text_read_otherwise :
    ∃ members : Members, (Json.obj members).WellFormed ∧
      (∀ n ∈ (Json.obj members).numbers, n.Fits) ∧ (Json.obj members).nesting ≤ 100 ∧
      documentValue (Json.obj members).text.toUTF8 ≠ .ok (.obj members) ∧
      Input.typed .configMap (.bytes (Json.obj members).text.toUTF8) ≠
        Input.typed .configMap (.map members) := by
  let members (text : String) : Members := [("data", .obj [("k", .str text)])]
  have hread : documentValue (Json.obj (members "a\u0085b")).text.toUTF8 =
      .ok (.obj (members "a b")) :=
    (documentValue_text ⟨by decide, by decide, by decide⟩).trans (by decide)
  refine ⟨members "a\u0085b", by decide, by decide, by decide, ?_, ?_⟩
  · rw [hread]
    decide
  · rw [Input.typed, hread]
    decide +kernel

end ClusterObjects
