import Rulebook.Json.Members
import Rulebook.Pattern.Basic
import Rulebook.Schema.Scalar

/-!
A validation rule for one place of a payload.
-/

namespace Rulebook

/-- Where the expression of a rule comes from: the schema's own `pattern`, or
its `format`. -/
inductive PatternKind where
  | pattern | email | hostname | ipv4 | ipv6
deriving DecidableEq

namespace PatternKind

def name : PatternKind → String
  | .pattern => "pattern"
  | .email => "email"
  | .hostname => "hostname"
  | .ipv4 => "ipv4"
  | .ipv6 => "ipv6"

end PatternKind

structure RulePattern where
  kind : PatternKind
  pattern : Pattern

/-- What a form may show beside a field. The rules never depend on it. -/
structure FieldHints where
  title : Option String := none
  inputType : Option String := none
  firstOption : Option String := none
deriving DecidableEq

def FieldHints.isEmpty (hints : FieldHints) : Bool :=
  hints.title.isNone && hints.inputType.isNone && hints.firstOption.isNone

structure Rule where
  type : RuleType
  optional : Bool
  min : Option Binary64 := none
  max : Option Binary64 := none
  exclusiveMin : Option Bool := none
  exclusiveMax : Option Bool := none
  minCount : Option Nat := none
  maxCount : Option Nat := none
  pattern : Option RulePattern := none
  allowedValues : Option (List Json) := none
  decimal : Bool := false
  blackbox : Bool := false
  defaultValue : Option Json := none
  label : Option String := none
  hints : Option FieldHints := none

end Rulebook
