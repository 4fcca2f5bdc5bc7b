import Mathlib.Logic.Function.Iterate
import Rulebook.Proofs.Schema.Shape
import Rulebook.Translation.Walk

/-! Arrays around an object. The properties that are expanded below a node are declared by
one object schema, which lies under as many `items` as the shape of the node has arrays
around the object. Type and openness of the node are read one array deep. -/

namespace Rulebook

/-- What lies under a number of `items`, one in another. -/
def Json.itemsAt : Nat → Json → Option Json
  | 0, v => some v
  | depth + 1, v => (v.get? "items").bind (itemsAt depth)

namespace Shape
open Json

variable {v : Json} {properties : Members} {names : List String}

/-- An object schema with the properties that it declares and the names that it requires. -/
structure DeclaredBy (schema : Json) (properties : Members) (names : List String) : Prop where
  type : schema.declaredType = some "object"
  declared : schema.get? "properties" = some (.object properties)
  required : names = schema.requiredNames
  shape : classify schema = .object (some properties) names
    ((schema.get? "additionalProperties").any isTruthy)

theorem declaredBy_of_object (hr : v.text? "$ref" = none) (ht : v.declaredType = some "object")
    (h : (classify v).subProperties = some (properties, names)) :
    DeclaredBy v properties names := by
  have hshape := classify_eq v
  simp only [hr, ht] at hshape
  rw [hshape] at h
  cases hp : (v.get? "properties").bind asObject? with
  | none => simp [hp, subProperties] at h
  | some declared =>
    simp only [hp, Option.isSome_some, ↓reduceIte, subProperties, Option.some.injEq,
      Prod.mk.injEq] at h hshape
    obtain ⟨rfl, rfl⟩ := h
    obtain ⟨w, hw, hobject⟩ := Option.bind_eq_some_iff.1 hp
    obtain rfl : w = .object declared := by
      cases w <;> simp_all [asObject?]
    exact ⟨ht, hw, rfl, hshape⟩

theorem ofItems_of_subProperties {items : Json} {format : Option String}
    (h : (classify items).subProperties = some (properties, names)) :
    ofItems (some items) (some (classify items)) format = .array (classify items) := by
  rw [ofItems_classify]
  split
  · rename_i heq
    simp [heq, subProperties] at h
  · rfl

theorem arrayDepth_iterate (shape : Shape) (depth : Nat) :
    (array^[depth] shape).arrayDepth = shape.arrayDepth + depth := by
  induction depth with
  | zero => rfl
  | succ depth ih => rw [Function.iterate_succ_apply', arrayDepth, ih, Nat.add_assoc]

section Object

variable {declared : Option Members} {isOpen : Bool} {depth : Nat}

theorem isArray_iterate_object :
    (array^[depth] (object declared names isOpen)).isArray = decide (depth ≠ 0) := by
  cases depth with
  | zero => rfl
  | succ depth =>
    rw [Function.iterate_succ_apply']
    rfl

/-- Up to one array deep the type of a rule tells of the object. -/
theorem ruleType_iterate_object_iff :
    (array^[depth] (object declared names isOpen)).ruleType =
      (if depth = 0 then .single .object else .arrayOf .object) ↔ depth ≤ 1 := by
  match depth with
  | 0 => simp [ruleType, toScalar]
  | 1 => simp [ruleType, toScalar]
  | depth + 2 =>
    rw [Function.iterate_succ_apply', Function.iterate_succ_apply']
    simp [ruleType, toScalar]

/-- Up to one array deep the object is found open when it is. -/
theorem isOpen_iterate_object (h : depth ≤ 1) :
    (array^[depth] (object declared names isOpen)).isOpen = isOpen := by
  obtain rfl | rfl : depth = 0 ∨ depth = 1 := by omega
  · rfl
  · rfl

end Object

theorem exists_declaredBy_iterate (h : (classify v).subProperties = some (properties, names)) :
    ∃ schema depth, v.itemsAt depth = some schema ∧ DeclaredBy schema properties names ∧
      classify v = array^[depth] (classify schema) := by
  induction v using inductionOn with
  | scalar v ha ho => cases v <;> simp_all [classify, subProperties, asObject?]
  | array items => simp [classify, subProperties] at h
  | object members ih =>
    have hshape := classify_eq (.object members)
    cases hr : (Json.object members).text? "$ref" with
    | some target =>
      simp only [hr] at hshape
      simp [hshape, subProperties] at h
    | none =>
      simp only [hr] at hshape
      split at hshape
      · exact ⟨_, 0, rfl, declaredBy_of_object hr ‹_› h, rfl⟩
      · rw [hshape] at h
        obtain ⟨items, hitems, hsub⟩ := subProperties_ofItems h
        obtain ⟨schema, depth, hat, hdeclared, hitemsShape⟩ :=
          ih _ (Members.mem_of_get? hitems) hsub
        refine ⟨schema, depth + 1, ?_, hdeclared, ?_⟩
        · rw [itemsAt, hitems]
          exact hat
        · rw [hshape, hitems, Option.map_some, ofItems_of_subProperties hsub,
            Function.iterate_succ_apply', ← hitemsShape]
      · simp [hshape, subProperties] at h

/-- The properties that are found below a node are declared by the object around which its
arrays lie. -/
theorem exists_declaredBy (h : (classify v).subProperties = some (properties, names)) :
    ∃ schema, v.itemsAt (classify v).arrayDepth = some schema ∧
      DeclaredBy schema properties names ∧
      classify v = array^[(classify v).arrayDepth] (classify schema) := by
  obtain ⟨schema, depth, hat, hdeclared, hshape⟩ := exists_declaredBy_iterate h
  have hdepth : (classify v).arrayDepth = depth := by
    rw [hshape, arrayDepth_iterate, hdeclared.shape]
    exact Nat.zero_add depth
  rw [hdepth]
  exact ⟨schema, hat, hdeclared, hshape⟩

end Shape
end Rulebook
