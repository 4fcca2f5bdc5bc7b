/-!
The kinds of scalar that a rule can ask for.
-/

namespace Rulebook

inductive Scalar where
  | string | number | boolean | object | date
deriving DecidableEq, Inhabited

namespace Scalar

def name : Scalar → String
  | .string => "string"
  | .number => "number"
  | .boolean => "boolean"
  | .object => "object"
  | .date => "date"

/-- The kind that a schema's `type` and `format` ask for. The format counts
only when the type is not numeric, boolean or object; everything else is text. -/
def infer (type format : Option String) : Scalar :=
  match type with
  | some "integer" | some "number" => .number
  | some "boolean" => .boolean
  | some "object" => .object
  | _ =>
    match format with
    | some "date" | some "date-time" => .date
    | _ => .string

end Scalar

inductive RuleType where
  | single (scalar : Scalar)
  | arrayOf (element : Scalar)
deriving DecidableEq

namespace RuleType

def scalar : RuleType → Scalar
  | single s => s
  | arrayOf s => s

end RuleType
end Rulebook
