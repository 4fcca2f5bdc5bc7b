import Rulebook.Proofs.Json.Everywhere
import Rulebook.Schema.Shape

/-! The shape of a node by its `type`, and where declared properties lie. -/

namespace Rulebook
namespace Shape
open Json

theorem classify_object (members : Members) :
    classify (.object members) =
      ofMembers members ((Members.get? "items" members).map classify) := by
  rw [classify, classifyItems_eq]

/-- The shape of any value is read from the members that it has. -/
theorem classify_eq (v : Json) :
    classify v =
      match v.text? "$ref" with
      | some target => .reference target
      | none =>
        match v.declaredType with
        | some "object" =>
          let properties := (v.get? "properties").bind asObject?
          .object properties (if properties.isSome then v.requiredNames else [])
            ((v.get? "additionalProperties").any isTruthy)
        | some "array" =>
          ofItems (v.get? "items") ((v.get? "items").map classify) (v.text? "format")
        | type => .scalar (Scalar.infer type (v.text? "format")) := by
  cases v with
  | object members =>
    rw [classify_object]
    rfl
  | _ => rfl

def keywords : List String :=
  ["type", "format", "items", "properties", "required", "additionalProperties"]

theorem classify_congr {v w : Json} (hr : v.get? "$ref" = w.get? "$ref")
    (h : ∀ key ∈ keywords, v.get? key = w.get? key) : classify v = classify w := by
  have htype := h "type" (by decide)
  have hformat := h "format" (by decide)
  have hitems := h "items" (by decide)
  have hproperties := h "properties" (by decide)
  have hrequired := h "required" (by decide)
  have hopen := h "additionalProperties" (by decide)
  rw [classify_eq, classify_eq w]
  simp only [text?, declaredType, requiredNames, hr, htype, hformat, hitems, hproperties, hrequired,
    hopen]

/-- Display text has no part in the shape of a node. -/
theorem classify_withDisplay (node v : Json) : classify (withDisplay node.display v) = classify v :=
  classify_congr (get?_withDisplay_of_notMem (by decide) node v) fun key hk =>
    get?_withDisplay_of_notMem
      (by revert key; decide) node v

theorem classify_of_object {v : Json} (hr : v.get? "$ref" = none)
    (ht : v.declaredType = some "object") :
    classify v = .object ((v.get? "properties").bind asObject?)
      (if ((v.get? "properties").bind asObject?).isSome then v.requiredNames else [])
      ((v.get? "additionalProperties").any isTruthy) := by
  rw [classify_eq, text?, hr, ht]
  rfl

theorem classify_of_array {v : Json} (hr : v.get? "$ref" = none)
    (ht : v.declaredType = some "array") :
    classify v = ofItems (v.get? "items") ((v.get? "items").map classify) (v.text? "format") := by
  rw [classify_eq, text?, hr, ht]
  rfl

theorem classify_of_other {v : Json} (hr : v.get? "$ref" = none)
    (ho : v.declaredType ≠ some "object") (ha : v.declaredType ≠ some "array") :
    classify v = .scalar (Scalar.infer v.declaredType (v.text? "format")) := by
  rw [classify_eq, text?, hr]
  simp only [Option.bind_none]

theorem declaredType_of_isArray {v : Json} (h : (classify v).isArray) :
    v.declaredType = some "array" := by
  rw [classify_eq] at h
  split at h
  · simp [isArray] at h
  · split at h
    · simp [isArray] at h
    · assumption
    · simp [isArray] at h

/-- The shape of an array, from the shape of its `items`. -/
theorem ofItems_classify (items : Json) (format : Option String) :
    ofItems (some items) (some (classify items)) format =
      .array (match classify items with
        | .scalar .string => .scalar (Scalar.infer (items.text? "type") format)
        | shape => shape) := by
  cases items with
  | object members =>
    unfold ofItems
    generalize classify (.object members) = shape
    split <;> simp_all
  | _ => rfl

theorem subProperties_ofItems {items : Option Json} {format : Option String}
    {properties : Members} {required : List String}
    (h : (ofItems items (items.map classify) format).subProperties = some (properties, required)) :
    ∃ v, items = some v ∧ (classify v).subProperties = some (properties, required) := by
  unfold ofItems at h
  split at h
  · simp [subProperties] at h
  · rename_i members shape _ heq
    obtain rfl : classify (.object members) = shape := by simpa using heq
    exact ⟨_, rfl, h⟩
  · simp [subProperties] at h

/-- The declared properties of a node lie inside it. -/
theorem inside_of_subProperties {v : Json} {properties : Members} {required : List String}
    (h : (classify v).subProperties = some (properties, required)) :
    Inside (.object properties) v := by
  induction v using inductionOn with
  | scalar v ha ho => cases v <;> simp_all [classify, subProperties, asObject?]
  | array items => simp [classify, subProperties] at h
  | object members ih =>
    rw [classify_object, ofMembers] at h
    split at h
    · simp [subProperties] at h
    · simp only at h
      split at h
      · cases hp : Members.get? "properties" members with
        | none => simp [hp, subProperties] at h
        | some p =>
          cases p with
          | object ps =>
            simp only [get?_object, hp, Option.bind_some, asObject?, subProperties,
              Option.some.injEq, Prod.mk.injEq] at h
            obtain ⟨rfl, -⟩ := h
            exact .member (Members.mem_of_get? hp) .here
          | _ => simp [hp, asObject?, subProperties] at h
      · obtain ⟨u, hu, hsub⟩ := subProperties_ofItems h
        have hm := Members.mem_of_get? hu
        exact (ih _ hm hsub).trans (.member hm .here)
      · simp [subProperties] at h

end Shape
end Rulebook
