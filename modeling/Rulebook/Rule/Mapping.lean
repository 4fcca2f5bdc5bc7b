import Rulebook.Error
import Rulebook.Rule.Coercion
import Rulebook.Rule.Formats
import Rulebook.Schema.Shape

/-!
The rule that one dereferenced schema node asks for. Keywords are copied in a
fixed order, so that of two keywords for one field the later one counts.
-/

namespace Rulebook
namespace Rule

/-- The text of a value, or its JSON text when it is not one. -/
def labelText : Json → String
  | .string s => s
  | v => v.compact

def orInvalid {α : Type} (path keyword : String) (value : Json) (a : Option α) :
    Except TranslateError α :=
  a.elim (.error (.invalidKeyword path keyword value)) .ok

structure Keyword where
  name : String
  set : Json → Rule → Option Rule

/-- The keywords that set a field, in the order in which they are applied. -/
def keywords : List Keyword :=
  [⟨"title", fun v rule => some { rule with label := some (labelText v) }⟩,
   ⟨"minimum", fun v rule => v.coerceNumber.map fun x => { rule with min := some x }⟩,
   ⟨"maximum", fun v rule => v.coerceNumber.map fun x => { rule with max := some x }⟩,
   ⟨"exclusiveMinimum", fun v rule =>
      v.coerceFlag.map fun b => { rule with exclusiveMin := some b }⟩,
   ⟨"exclusiveMaximum", fun v rule =>
      v.coerceFlag.map fun b => { rule with exclusiveMax := some b }⟩,
   ⟨"minLength", fun v rule => v.coerceNumber.map fun x => { rule with min := some x }⟩,
   ⟨"maxLength", fun v rule => v.coerceNumber.map fun x => { rule with max := some x }⟩,
   ⟨"minItems", fun v rule => v.coerceCount.map fun n => { rule with minCount := some n }⟩,
   ⟨"maxItems", fun v rule => v.coerceCount.map fun n => { rule with maxCount := some n }⟩,
   ⟨"default", fun v rule => some { rule with defaultValue := some v }⟩]

def applyKeyword (path : String) (node : Json) (rule : Rule) (keyword : Keyword) :
    Except TranslateError Rule :=
  match node.get? keyword.name with
  | some v => orInvalid path keyword.name v (keyword.set v rule)
  | none => .ok rule

def readPattern (path : String) (node : Json) : Except TranslateError (Option RulePattern) :=
  match node.get? "pattern" with
  | none => .ok none
  | some v => do
    let source ← orInvalid path "pattern" v v.asString?
    match Pattern.read? source with
    | some pattern => return some { kind := .pattern, pattern }
    | none => throw (.invalidPattern path)

def readEnum (path : String) (node : Json) : Except TranslateError (Option (List Json)) :=
  match node.get? "enum" with
  | none => .ok none
  | some v => some <$> orInvalid path "enum" v v.asArray?

/-- Whether a node is declared as `number` rather than `integer`; of an array,
its items. -/
def isDecimal (node : Json) (shape : Shape) : Bool :=
  let type := if shape.isArray then (node.get? "items").bind Json.declaredType
    else node.declaredType
  type == some "number"

def noSelection : String := "(None)"

def hintsOf (node : Json) (format : Option String) (allowsNone : Bool) : FieldHints where
  title := (node.text? "description").filter (· != "")
  inputType := if format = some "date-time" then some "datetime" else none
  firstOption := if allowsNone then some noSelection else none

/-- The expression and the decimal flag of a node. Its own pattern comes before
that of its format, and a flag is set only when neither is there. -/
def withPattern (rule : Rule) (pattern : Option RulePattern) (format : Option String)
    (decimal : Bool) : Rule :=
  match pattern, Formats.kind? format with
  | some p, _ => { rule with pattern := some p }
  | none, some kind => { rule with pattern := Formats.rulePattern? kind }
  | none, none => { rule with decimal }

/-- The rule for a node. The path is the key it will have. -/
def ofNode (path : String) (node : Json) (required blackbox : Bool) :
    Except TranslateError Rule := do
  let shape := Shape.classify node
  let start : Rule := { type := shape.ruleType, optional := !required }
  let rule ← keywords.foldlM (applyKeyword path node) start
  let pattern ← readPattern path node
  let values ← readEnum path node
  let format := node.text? "format"
  let hints := hintsOf node format ((values.getD []).any Json.isNull)
  let rule := rule.withPattern pattern format (isDecimal node shape)
  return { rule with
    blackbox
    allowedValues := values.map (·.filter (!·.isNull))
    hints := if hints.isEmpty then none else some hints }

end Rule
end Rulebook
