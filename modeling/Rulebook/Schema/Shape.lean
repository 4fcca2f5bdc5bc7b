import Rulebook.Json.Members
import Rulebook.Schema.Scalar

/-!
The shape of a schema node: a reference, a scalar, an object with declared
properties, or an array of some shape. A `$ref` decides before a `type` does.
-/

namespace Rulebook

inductive Shape where
  | reference (target : String)
  | scalar (kind : Scalar)
  | object (properties : Option Members) (required : List String) (isOpen : Bool)
  | array (element : Shape)

namespace Json

/-- The `type` keyword; of a list of types, the first one that is not `null`. -/
def declaredType (node : Json) : Option String :=
  match node.get? "type" with
  | some (.string s) => some s
  | some (.array types) => (types.filterMap asString?).find? (· != "null")
  | _ => none

/-- Whether a value counts as true: all do but `null`, `false`, zero and the
empty text. -/
def isTruthy : Json → Bool
  | .null => false
  | .bool b => b
  | .number n => !n.toDouble.isZero
  | .string s => s != ""
  | .array _ => true
  | .object _ => true

def requiredNames (node : Json) : List String :=
  (((node.get? "required").bind asArray?).getD []).filterMap asString?

end Json

namespace Shape

/-- The shape of an array whose `items` have a given shape. Elements without a
kind of their own take it from the format of the array. -/
def ofItems (items : Option Json) (itemsShape : Option Shape) (format : Option String) : Shape :=
  match items, itemsShape with
  | some (.object members), some (.scalar .string) =>
    .array (.scalar (Scalar.infer ((Json.object members).text? "type") format))
  | some (.object _), some shape => .array shape
  | _, _ => .array (.scalar (Scalar.infer none format))

def ofMembers (members : Members) (itemsShape : Option Shape) : Shape :=
  let node := Json.object members
  match node.text? "$ref" with
  | some target => .reference target
  | none =>
    let format := node.text? "format"
    match node.declaredType with
    | some "object" =>
      let properties := (node.get? "properties").bind Json.asObject?
      .object properties (if properties.isSome then node.requiredNames else [])
        ((node.get? "additionalProperties").any Json.isTruthy)
    | some "array" => ofItems (node.get? "items") itemsShape format
    | type => .scalar (Scalar.infer type format)

mutual

def classify : Json → Shape
  | .object members => ofMembers members (classifyItems members)
  | _ => .scalar .string

def classifyItems : List (String × Json) → Option Shape
  | [] => none
  | (k, v) :: rest => if k = "items" then some (classify v) else classifyItems rest

end

theorem classifyItems_eq (members : Members) :
    classifyItems members = (Members.get? "items" members).map classify := by
  induction members with
  | nil => rfl
  | cons m rest ih =>
    obtain ⟨k, v⟩ := m
    by_cases h : k = "items" <;> simp [classifyItems, Members.get?, h, ih]

/-- The scalar of a shape that is a rule type or an array element. -/
def toScalar : Shape → Scalar
  | .scalar kind => kind
  | .object .. => .object
  | .reference _ | .array _ => .string

def ruleType : Shape → RuleType
  | .array element => .arrayOf element.toScalar
  | shape => .single shape.toScalar

def isArray : Shape → Bool
  | .array _ => true
  | _ => false

def isOpenObject : Shape → Bool
  | .object _ _ isOpen => isOpen
  | _ => false

/-- Whether undeclared properties are allowed: for open objects and for arrays
of them. -/
def isOpen : Shape → Bool
  | .array element => element.isOpenObject
  | shape => shape.isOpenObject

/-- The declared properties and the names required of them, for objects and
for arrays of objects at any depth. -/
def subProperties : Shape → Option (Members × List String)
  | .object (some properties) required _ => some (properties, required)
  | .array element => element.subProperties
  | _ => none

end Shape
end Rulebook
