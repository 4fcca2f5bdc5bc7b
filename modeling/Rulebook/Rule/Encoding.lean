import Rulebook.Json.Writer
import Rulebook.Rule.Basic

/-!
A rule as JSON. What a rule does not say is left out, and an array type is
written as a list of one.
-/

namespace Rulebook

def RuleType.toJson : RuleType → Json
  | .single s => .string s.name
  | .arrayOf s => .array [.string s.name]

def Json.ofCount (n : Nat) : Json :=
  if h : fitsWord n then .number (.integer n h) else .null

def optionalMember (key : String) (value : Option Json) : Members :=
  value.toList.map fun v => (key, v)

def FieldHints.toJson (hints : FieldHints) : Json :=
  .object <|
    optionalMember "title" (hints.title.map .string) ++
    optionalMember "type" (hints.inputType.map .string) ++
    optionalMember "firstOption" (hints.firstOption.map .string)

def Rule.toJson (rule : Rule) : Json :=
  let number (x : Binary64) : Json := .number (.double x)
  .object <|
    [("type", rule.type.toJson), ("optional", .bool rule.optional)] ++
    optionalMember "min" (rule.min.map number) ++
    optionalMember "max" (rule.max.map number) ++
    optionalMember "exclusiveMin" (rule.exclusiveMin.map .bool) ++
    optionalMember "exclusiveMax" (rule.exclusiveMax.map .bool) ++
    optionalMember "minCount" (rule.minCount.map .ofCount) ++
    optionalMember "maxCount" (rule.maxCount.map .ofCount) ++
    optionalMember "regEx" (rule.pattern.map (.string ·.pattern.source)) ++
    optionalMember "allowedValues" (rule.allowedValues.map .array) ++
    optionalMember "decimal" (if rule.decimal then some (.bool true) else none) ++
    optionalMember "blackbox" (if rule.blackbox then some (.bool true) else none) ++
    optionalMember "defaultValue" rule.defaultValue ++
    optionalMember "label" (rule.label.map .string) ++
    optionalMember "uiHints" (rule.hints.map FieldHints.toJson)

end Rulebook
