import Rulebook.Reference.Chain
import Rulebook.Schema.Shape

/-!
Why the walk through declared properties ends. The weight of a node counts the
nodes that its `properties` and its `items` declare. Going down to the
properties of a node makes the weight smaller, and so does taking a node for
itself when no pointer is followed.
-/

namespace Rulebook
namespace Json

mutual

/-- The nodes that a node declares, itself included. -/
def weight : Json → Nat
  | .object members => 1 + weightOfMembers members
  | _ => 1

def weightOfMembers : List (String × Json) → Nat
  | [] => 0
  | (k, v) :: rest =>
    (if k = "items" then weight v else if k = "properties" then weightOfNames v else 0) +
      weightOfMembers rest

def weightOfNames : Json → Nat
  | .object members => weightOfValues members
  | _ => 0

def weightOfValues : List (String × Json) → Nat
  | [] => 0
  | (_, v) :: rest => weight v + weightOfValues rest

end

def weightOfMember (k : String) (v : Json) : Nat :=
  if k = "items" then weight v else if k = "properties" then weightOfNames v else 0

theorem weightOfMembers_cons (k : String) (v : Json) (rest : Members) :
    weightOfMembers ((k, v) :: rest) = weightOfMember k v + weightOfMembers rest := by
  simp [weightOfMembers, weightOfMember]

theorem weight_pos (v : Json) : 1 ≤ weight v := by
  cases v <;> simp [weight]

theorem weightOfMember_of_ne {k : String} (hi : k ≠ "items") (hp : k ≠ "properties") (v : Json) :
    weightOfMember k v = 0 := by
  simp [weightOfMember, hi, hp]

theorem weightOfMember_le_of_get? {k : String} {v : Json} {members : Members}
    (h : Members.get? k members = some v) : weightOfMember k v ≤ weightOfMembers members := by
  induction members with
  | nil => simp at h
  | cons m rest ih =>
    obtain ⟨l, w⟩ := m
    rw [weightOfMembers_cons]
    by_cases hk : l = k
    · simp only [Members.get?, hk, ↓reduceIte, Option.some.injEq] at h
      subst hk h
      exact Nat.le_add_right _ _
    · simp only [Members.get?, hk, ↓reduceIte] at h
      exact Nat.le_trans (ih h) (Nat.le_add_left _ _)

theorem weightOfMembers_append (a b : Members) :
    weightOfMembers (a ++ b) = weightOfMembers a + weightOfMembers b := by
  induction a with
  | nil => simp [weightOfMembers]
  | cons m rest ih =>
    obtain ⟨k, v⟩ := m
    simp [weightOfMembers_cons, ih, Nat.add_assoc]

theorem weightOfMembers_insert {k : String} (hi : k ≠ "items") (hp : k ≠ "properties") (v : Json)
    (members : Members) :
    weightOfMembers (Members.insert k v members) = weightOfMembers members := by
  induction members with
  | nil => simp [Members.insert, weightOfMembers_cons, weightOfMember_of_ne hi hp, weightOfMembers]
  | cons m rest ih =>
    obtain ⟨l, w⟩ := m
    by_cases hk : l = k
    · subst hk
      simp [Members.insert, weightOfMembers_cons, weightOfMember_of_ne hi hp]
    · simp [Members.insert, hk, weightOfMembers_cons, ih]

/-- Putting another value under `items` changes the weight by the difference. -/
theorem weightOfMembers_insert_items {old new : Json} {members : Members}
    (h : Members.get? "items" members = some old) (hw : weight new ≤ weight old) :
    weightOfMembers (Members.insert "items" new members) ≤ weightOfMembers members := by
  induction members with
  | nil => simp at h
  | cons m rest ih =>
    obtain ⟨l, w⟩ := m
    by_cases hk : l = "items"
    · simp only [Members.get?, hk, ↓reduceIte, Option.some.injEq] at h
      subst hk h
      simpa [Members.insert, weightOfMembers_cons, weightOfMember] using hw
    · simp only [Members.get?, hk, ↓reduceIte] at h
      simpa [Members.insert, hk, weightOfMembers_cons] using ih h

theorem weightOfMembers_erase {k : String} (hi : k ≠ "items") (hp : k ≠ "properties")
    (members : Members) : weightOfMembers (Members.erase k members) = weightOfMembers members := by
  induction members with
  | nil => rfl
  | cons m rest ih =>
    obtain ⟨l, w⟩ := m
    by_cases hk : l = k
    · subst hk
      simp only [Members.erase, ↓reduceIte, weightOfMembers_cons, weightOfMember_of_ne hi hp,
        Nat.zero_add]
      cases hl : rest.getLast? with
      | none => simp [List.getLast?_eq_none_iff.1 hl, weightOfMembers]
      | some last =>
        obtain ⟨front, hf⟩ := List.getLast?_eq_some_iff.1 hl
        obtain ⟨a, b⟩ := last
        simp [hf, weightOfMembers_append, weightOfMembers, Nat.add_comm]
    · simp [Members.erase, hk, weightOfMembers_cons, ih]

theorem weightOfMembers_extend {added : Members}
    (h : ∀ m ∈ added, m.1 ≠ "items" ∧ m.1 ≠ "properties") (members : Members) :
    weightOfMembers (Members.extend members added) = weightOfMembers members := by
  induction added generalizing members with
  | nil => rfl
  | cons m rest ih =>
    have hm := h m (by simp)
    have hr := fun x hx => h x (List.mem_cons_of_mem m hx)
    simp only [Members.extend, List.foldl_cons]
    exact (ih hr _).trans (weightOfMembers_insert hm.1 hm.2 _ _)

theorem display_keys (node : Json) : ∀ m ∈ node.display, m.1 ≠ "items" ∧ m.1 ≠ "properties" := by
  intro m hm
  simp only [display, displayFields, List.mem_filterMap, List.mem_cons, List.not_mem_nil,
    or_false] at hm
  obtain ⟨field, hf, hm⟩ := hm
  obtain ⟨v, _, rfl⟩ := Option.map_eq_some_iff.1 hm
  rcases hf with rfl | rfl <;> simp

/-- Display text has no weight. -/
theorem weight_withDisplay (node v : Json) : weight (withDisplay node.display v) = weight v := by
  cases v with
  | object members =>
    simp [withDisplay, weight, weightOfMembers_extend (display_keys node)]
  | _ => rfl

theorem weight_selfReference (root : Json) : weight (selfReference root) = 1 := by
  simp [selfReference, weight, weightOfMembers]

/-- Only a reference to the whole document is expanded without a pointer. -/
theorem expandReference_nil {root reference v : Json} {unused : List String}
    (h : expandReference root unused reference = .ok (v, [])) : v = selfReference root := by
  unfold expandReference at h
  split at h
  · rename_i pointer
    split at h
    · simpa using h.symm
    · split at h
      · simp at h
      · split at h
        · simp only [bind, Except.bind] at h
          split at h
          · simp at h
          · split at h
            · simp at h
            · simp [pure, Except.pure] at h
        · simp at h
  · simp at h

theorem weight_mergeItems {items reference : Json} (root : Json)
    (h : items.get? "$ref" = some reference) :
    weight (.object (mergeItems items (selfReference root))) = weight items := by
  cases items with
  | object members =>
    simp only [weight, mergeItems, asObject?, Option.getD_some, selfReference]
    rw [weightOfMembers_extend (by simp), weightOfMembers_erase (by decide) (by decide)]
  | _ => simp [get?] at h

/-- A node from which no pointer was followed does not become heavier. -/
theorem weight_le_of_dereferenceTraced {root node v : Json}
    (h : dereferenceTraced root node = .ok (v, [])) : weight v ≤ weight node := by
  unfold dereferenceTraced dereferenceWith at h
  split at h
  · rw [expandReference_nil h, weight_selfReference]
    exact weight_pos node
  · split at h
    · rename_i members items hitems
      split at h
      · rename_i reference href
        simp only [bind, Except.bind] at h
        split at h
        · simp at h
        · rename_i r hr
          obtain ⟨target, followed⟩ := r
          simp only [pure, Except.pure, Except.ok.injEq, Prod.mk.injEq] at h
          obtain ⟨rfl, rfl⟩ := h
          rw [expandReference_nil hr]
          simp only [weight]
          have hw := weightOfMembers_insert_items hitems
            (Nat.le_of_eq (weight_mergeItems root href))
          omega
      · simp only [Except.ok.injEq, Prod.mk.injEq] at h
        obtain ⟨rfl, -⟩ := h
        exact Nat.le_refl _
    · simp only [Except.ok.injEq, Prod.mk.injEq] at h
      obtain ⟨rfl, -⟩ := h
      exact Nat.le_refl _

end Json

namespace Shape

open Json in
/-- The properties that a node declares are lighter than the node. -/
theorem weight_subProperties {v : Json} {properties : Members} {required : List String}
    (h : (classify v).subProperties = some (properties, required)) :
    weightOfValues properties < weight v := by
  cases v with
  | object members =>
    simp only [classify, ofMembers] at h
    split at h
    · simp [subProperties] at h
    · split at h
      · -- an object
        cases hp : Members.get? "properties" members with
        | none => simp [hp, subProperties] at h
        | some p =>
          cases p with
          | object ps =>
            simp only [get?_object, hp, Option.bind_some, asObject?, subProperties,
              Option.some.injEq, Prod.mk.injEq] at h
            have := weightOfMember_le_of_get? hp
            simp only [weightOfMember, weightOfNames] at this
            simp only [weight, ← h.1]
            simp at this
            omega
          | _ => simp [hp, asObject?, subProperties] at h
      · -- an array
        rw [classifyItems_eq] at h
        cases hi : Members.get? "items" members with
        | none => simp [hi, ofItems, subProperties] at h
        | some items =>
          have hle := weightOfMember_le_of_get? hi
          simp only [weightOfMember, ↓reduceIte] at hle
          cases items with
          | object ms =>
            simp only [get?_object, hi, Option.map_some] at h
            have hlt : weight (.object ms) < weight (.object members) := by
              simp only [weight] at *; omega
            have hsub : (classify (.object ms)).subProperties = some (properties, required) := by
              unfold ofItems at h
              split at h
              · simp [subProperties] at h
              · rename_i heq
                simp only [Option.some.injEq] at heq
                simpa [subProperties, heq] using h
              · simp [subProperties] at h
            have := weight_subProperties hsub
            omega
          | _ => simp [hi, ofItems, subProperties, get?_object] at h
      · simp [subProperties] at h
  | _ => simp [classify, subProperties] at h
termination_by weight v

end Shape
end Rulebook
