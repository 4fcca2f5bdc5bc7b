import Rulebook.Json.Writer
import Rulebook.Number.Order
import Rulebook.Validation.Identifier
import Rulebook.Validation.RuleKey

/-!
What a schema can object to in a value, as causes with their wording, and why a
schema cannot be used at all.
-/

namespace Rulebook

/-- The types of values. Integers are numbers too. -/
inductive ValueType where
  | array | boolean | integer | null | number | object | string
deriving DecidableEq

namespace ValueType

def name : ValueType → String
  | .array => "array"
  | .boolean => "boolean"
  | .integer => "integer"
  | .null => "null"
  | .number => "number"
  | .object => "object"
  | .string => "string"

def all : List ValueType := [.array, .boolean, .integer, .null, .number, .object, .string]

end ValueType

inductive ReferenceFault where
  | notReference (reference : String) (fault : IdentifierFault)
  | unknownScheme (uri scheme : String)
  | unobtainable (uri reason : String)
  | noSuchPointer (pointer : String)
  | badPointer (pointer : String)
  | badIndex (pointer index : String)
  | noSuchAnchor (anchor : String)
  | invalidAnchor (anchor : String)
  | unknownVersion (name : String)
deriving DecidableEq

namespace ReferenceFault

private def retrievalFailed (uri reason : String) : String :=
  "Resource '" ++ uri ++ "' is not present in a registry and retrieving it failed: " ++ reason

def message : ReferenceFault → String
  | notReference reference fault =>
    "Invalid URI reference '" ++ reference ++ "': " ++ fault.message
  | unknownScheme uri scheme => retrievalFailed uri ("Unknown scheme " ++ scheme)
  | unobtainable uri reason => retrievalFailed uri reason
  | noSuchPointer pointer => "Pointer '" ++ pointer ++ "' does not exist"
  | badPointer pointer =>
    "Invalid percent encoding in pointer '" ++ pointer ++
      "': the decoded bytes do not represent valid UTF-8"
  | badIndex pointer index =>
    "Failed to parse array index '" ++ index ++ "' in pointer '" ++ pointer ++ "'"
  | noSuchAnchor anchor => "Anchor '" ++ anchor ++ "' does not exist"
  | invalidAnchor anchor => "Anchor '" ++ anchor ++ "' is invalid"
  | unknownVersion name => "Unknown specification: " ++ name

end ReferenceFault

inductive Fault where
  | falseSchema
  | wrongType (expected : List ValueType)
  | notConstant (expected : Json)
  | notListed (options : Json)
  | belowMinimum (limit : Number)
  | notAboveMinimum (limit : Number)
  | aboveMaximum (limit : Number)
  | notBelowMaximum (limit : Number)
  | notMultiple (divisor : Number)
  | tooShort (limit : Nat)
  | tooLong (limit : Nat)
  | noMatch (pattern : String)
  | wrongFormat (format : String)
  | wrongEncoding (encoding : String)
  | wrongMediaType (mediaType : String)
  | tooFewItems (limit : Nat)
  | tooManyItems (limit : Nat)
  | duplicateItems
  | noneContained
  | additionalItems (items : List Json)
  | unevaluatedItems (items : List Json)
  | tooFewMembers (limit : Nat)
  | tooManyMembers (limit : Nat)
  | missing (name : String)
  | additionalMembers (names : List String)
  | unevaluatedMembers (names : List String)
  /-- What is wrong with the name of a member. -/
  | badName (name : String) (fault : Fault)
  | noAlternative
  | noChoice
  | severalChoices
  | forbidden (schema : Json)
  | reference (fault : ReferenceFault)

namespace Fault

def quoted (s : String) : String := "'" ++ s ++ "'"

def counted (n : Nat) (one many : String) : String :=
  toString n ++ " " ++ if n = 1 then one else many

/-- What was not expected, and the verb that goes with it. -/
def unexpected (what : String) (names : List String) : String :=
  what ++ " are not allowed (" ++ ", ".intercalate names ++
    (if names.length = 1 then " was unexpected)" else " were unexpected)")

def typeNames : List ValueType → String
  | [type] => "type \"" ++ type.name ++ "\""
  | types => "types " ++ ", ".intercalate (types.map fun type => "\"" ++ type.name ++ "\"")

def message (value : Json) : Fault → String
  | .falseSchema => "False schema does not allow " ++ value.compact
  | .wrongType expected => value.compact ++ " is not of " ++ typeNames expected
  | .notConstant expected => expected.compact ++ " was expected"
  | .notListed options => value.compact ++ " is not one of " ++ options.compact
  | .belowMinimum limit => value.compact ++ " is less than the minimum of " ++ limit.text
  | .notAboveMinimum limit =>
    value.compact ++ " is less than or equal to the minimum of " ++ limit.text
  | .aboveMaximum limit => value.compact ++ " is greater than the maximum of " ++ limit.text
  | .notBelowMaximum limit =>
    value.compact ++ " is greater than or equal to the maximum of " ++ limit.text
  | .notMultiple divisor =>
    value.compact ++ " is not a multiple of " ++ divisor.toDouble.text Number.plainLayout
  | .tooShort limit =>
    value.compact ++ " is shorter than " ++ counted limit "character" "characters"
  | .tooLong limit =>
    value.compact ++ " is longer than " ++ counted limit "character" "characters"
  | .noMatch pattern => value.compact ++ " does not match \"" ++ pattern ++ "\""
  | .wrongFormat format => value.compact ++ " is not a \"" ++ format ++ "\""
  | .wrongEncoding encoding =>
    value.compact ++ " is not compliant with \"" ++ encoding ++ "\" content encoding"
  | .wrongMediaType mediaType =>
    value.compact ++ " is not compliant with \"" ++ mediaType ++ "\" media type"
  | .tooFewItems limit => value.compact ++ " has less than " ++ counted limit "item" "items"
  | .tooManyItems limit => value.compact ++ " has more than " ++ counted limit "item" "items"
  | .duplicateItems => value.compact ++ " has non-unique elements"
  | .noneContained => "None of " ++ value.compact ++ " are valid under the given schema"
  | .additionalItems items => unexpected "Additional items" (items.map Json.compact)
  | .unevaluatedItems items => unexpected "Unevaluated items" (items.map Json.compact)
  | .tooFewMembers limit =>
    value.compact ++ " has less than " ++ counted limit "property" "properties"
  | .tooManyMembers limit =>
    value.compact ++ " has more than " ++ counted limit "property" "properties"
  | .missing name => Json.quote name ++ " is a required property"
  | .additionalMembers names => unexpected "Additional properties" (names.map quoted)
  | .unevaluatedMembers names => unexpected "Unevaluated properties" (names.map quoted)
  | .badName name fault => fault.message (.string name)
  | .noAlternative =>
    value.compact ++ " is not valid under any of the schemas listed in the 'anyOf' keyword"
  | .noChoice =>
    value.compact ++ " is not valid under any of the schemas listed in the 'oneOf' keyword"
  | .severalChoices =>
    value.compact ++
      " is valid under more than one of the schemas listed in the 'oneOf' keyword"
  | .forbidden schema => schema.compact ++ " is not allowed for " ++ value.compact
  | .reference fault => fault.message

end Fault

/-- A fault, the value that has it, and the pointer that the fault is reported at. -/
structure Violation where
  path : List String
  value : Json
  fault : Fault

namespace Violation

def escapeSegment (s : String) : String :=
  String.ofList (s.toList.flatMap fun c =>
    if c = '~' then ['~', '0'] else if c = '/' then ['~', '1'] else [c])

def pointerTo (path : List String) : String :=
  String.join (path.map fun segment => "/" ++ escapeSegment segment)

def pointer (v : Violation) : String := pointerTo v.path

def ruleKey (v : Violation) : String := RuleKey.ofPointer v.pointer

def message (v : Violation) : String := v.fault.message v.value

def display (v : Violation) : String :=
  if v.ruleKey.isEmpty then v.message else v.ruleKey ++ ": " ++ v.message

end Violation
end Rulebook
