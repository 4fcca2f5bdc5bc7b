import Rulebook.Rule.Mapping
import Rulebook.Rule.Table
import Rulebook.Translation.Descent

/-!
The walk through the declared properties of a schema, and the table of rules it
yields. A property below an object is keyed with a point, one below the
elements of an array with a marker for the element. The walk does not go below
open objects, and a pointer that is met below itself ends it.
-/

namespace Rulebook

inductive Step where
  | property (name : String)
  | element
deriving DecidableEq

structure Expansion where
  /-- The steps that lead to it in a payload. -/
  location : List Step
  key : String
  required : Bool
  /-- The node of the property, dereferenced and under its display text. -/
  node : Json
  rule : Rule

structure Place where
  location : List Step := []
  /-- What stands before the name of a property in its key. -/
  lead : String := ""
  /-- The names that the object requires. -/
  required : List String := []

namespace Shape

def arrayDepth : Shape → Nat
  | .array element => element.arrayDepth + 1
  | _ => 0

/-- The properties that are expanded below a shape: those it declares, unless
it is open. -/
def innerProperties (shape : Shape) : Option (Members × List String) :=
  if shape.isOpen then none else shape.subProperties

theorem weight_innerProperties {v : Json} {properties : Members} {required : List String}
    (h : (classify v).innerProperties = some (properties, required)) :
    Json.weightOfValues properties < Json.weight v := by
  unfold innerProperties at h
  split at h
  · simp at h
  · exact weight_subProperties h

end Shape

namespace Place

/-- The place of a property's own properties. Around their names arrays count
once, however many there are. -/
def below (place : Place) (name : String) (shape : Shape) (required : List String) : Place where
  location := place.location ++ [.property name] ++ List.replicate shape.arrayDepth .element
  lead := place.lead ++ name ++ (if shape.isArray then ".$." else ".")
  required := required

end Place

def withoutAll (followed unused : List String) : List String :=
  unused.filter fun r => !followed.contains r

theorem length_withoutAll_lt {followed unused : List String} (pointer : String)
    (hf : pointer ∈ followed) (hu : pointer ∈ unused) :
    (withoutAll followed unused).length < unused.length :=
  List.length_filter_lt_length_iff_exists.2 ⟨pointer, hu, by simpa using hf⟩

theorem withoutAll_nil (unused : List String) : withoutAll [] unused = unused := by
  simp [withoutAll]

/-- The first pointer that was followed although it is being expanded already. -/
def repeated? (unused followed : List String) : Option String :=
  followed.find? fun r => !unused.contains r

/-- Every property that `properties` declare, with those below it, in document
order. Only the pointers in `unused` may be followed. -/
def walk (root : Json) (unused : List String) (place : Place) :
    List (String × Json) → Except TranslateError (List Expansion)
  | [] => .ok []
  | (name, node) :: rest =>
    match _h : Json.dereferenceTraced root node with
    | .error e => .error (.resolve e)
    | .ok (target, followed) =>
      match _hr : repeated? unused followed with
      | some pointer => .error (.resolve (.circular pointer))
      | none => do
        let resolved := Json.withDisplay node.display target
        let shape := Shape.classify resolved
        let key := place.lead ++ name
        let required := place.required.contains name
        let rule ← Rule.ofNode key resolved required shape.isOpen
        let here : Expansion :=
          { location := place.location ++ [.property name], key, required, node := resolved, rule }
        let inner : Except TranslateError (List Expansion) :=
          match _hs : shape.innerProperties with
          | some (properties, names) =>
            walk root (withoutAll followed unused) (place.below name shape names) properties
          | none => .ok []
        return here :: (← inner) ++ (← walk root unused place rest)
termination_by properties => (unused.length, Json.weightOfValues properties)
decreasing_by
  · cases hf : followed with
    | nil =>
      subst hf
      rw [withoutAll_nil]
      apply Prod.Lex.right
      have h₁ := Shape.weight_innerProperties _hs
      have h₂ := Json.weight_le_of_dereferenceTraced _h
      rw [Json.weight_withDisplay] at h₁
      simp only [Json.weightOfValues]
      omega
    | cons pointer more =>
      apply Prod.Lex.left
      apply length_withoutAll_lt pointer (by simp)
      simp only [repeated?, hf, List.find?_eq_none] at _hr
      simpa using _hr pointer (by simp)
  · apply Prod.Lex.right
    have := Json.weight_pos node
    simp only [Json.weightOfValues]
    omega

namespace RuleTable

def ofExpansions (expansions : List Expansion) : RuleTable :=
  expansions.foldl (fun table e => table.insert e.key e.rule) {}

end RuleTable

/-- The pointers that may be followed while properties of a document are
expanded. -/
def pointersOf (properties : Members) (root : Json) : List String :=
  Json.referencesOfMembers properties ++ root.references

def expandProperties (properties : Members) (required : List String) (root : Json) :
    Except TranslateError (List Expansion) :=
  walk root (pointersOf properties root) { required } properties

def translateProperties (properties : Members) (required : List String) (root : Json) :
    Except TranslateError RuleTable :=
  (expandProperties properties required root).map RuleTable.ofExpansions

/-- The properties of a document: those under `properties`, or its own members. -/
def documentProperties (document : Json) : Option Members :=
  ((document.get? "properties").bind Json.asObject?).or document.asObject?

/-- The rules of a document. One that is not an object has none. -/
def translate (document : Json) : Except TranslateError RuleTable :=
  match documentProperties document with
  | some properties => translateProperties properties document.requiredNames document
  | none => .ok {}

end Rulebook
