import Rulebook.Pattern.Basic
import Rulebook.Validation.Equality
import Rulebook.Validation.Registry
import Rulebook.Validation.TextFormat

/-!
What each keyword of a schema asks of a value. How schemas below a keyword are
applied is a parameter, so that no definition here is recursive.
-/

namespace Rulebook

/-- What comes of checking a value: faults, and the members and items that some
keyword was responsible for. -/
structure Outcome where
  violations : List Violation := []
  names : List String := []
  indices : List Nat := []

namespace Outcome

def append (a b : Outcome) : Outcome where
  violations := a.violations ++ b.violations
  names := a.names ++ b.names
  indices := a.indices ++ b.indices

instance : Append Outcome := ⟨append⟩

def isValid (o : Outcome) : Bool := o.violations.isEmpty

def concat (outcomes : List Outcome) : Outcome := outcomes.foldl append {}

/-- A value with faults vouches for nothing. -/
def settle (o : Outcome) : Outcome := if o.isValid then o else { violations := o.violations }

end Outcome

inductive ReferenceKind where
  | plain
  | recursive
deriving DecidableEq

/-- A value that is checked against a schema, and how to check it, or parts of
it, against other schemas. -/
structure Frame where
  draft : Draft
  /-- The schema that the keyword stands in. -/
  siblings : Members
  path : List String
  value : Json
  /-- Check the value itself. -/
  here : Json → Outcome
  /-- Check what stands below the value, at a segment. -/
  below : String → Json → Json → Outcome
  /-- Check a value that stands nowhere. -/
  apart : Json → Json → Outcome
  /-- Check the value against the schema that a reference means. -/
  refer : ReferenceKind → String → Outcome

namespace Frame

def fail (f : Frame) (fault : Fault) : Outcome := { violations := [⟨f.path, f.value, fault⟩] }

def require (f : Frame) (holds : Bool) (fault : Fault) : Outcome :=
  if holds then {} else f.fail fault

def sibling? (f : Frame) (keyword : String) : Option Json := Members.get? keyword f.siblings

/-- The faults of something below; what it vouches for does not concern the
value itself. -/
def faultsBelow (f : Frame) (segment : String) (v schema : Json) : Outcome :=
  { violations := (f.below segment v schema).violations }

end Frame

namespace Keyword

def limit? : Json → Option Nat
  | .number (.integer n _) => if 0 ≤ n then some n.toNat else none
  | .number (.double x) =>
    if x.isInteger && (!x.negative || x.isZero) then some (min x.truncated (2 ^ 64 - 1)) else none
  | _ => none

def number? : Json → Option Number
  | .number n => some n
  | _ => none

/-- The types that a value has. Up to version 4 an integer has no point. -/
def hasType (draft : Draft) (v : Json) (type : ValueType) : Bool :=
  match type, v with
  | .array, .array _ | .boolean, .bool _ | .null, .null | .number, .number _
  | .object, .object _ | .string, .string _ => true
  | .integer, .number (.integer _ _) => true
  | .integer, .number (.double x) => draft.since .six && x.isInteger
  | _, _ => false

def expectedTypes (argument : Json) : List ValueType :=
  let names := match argument with
    | .string name => [name]
    | .array items => items.filterMap Json.asString?
    | _ => []
  ValueType.all.filter fun type => names.contains type.name

def schemas (argument : Json) : List Json := argument.asArray?.getD []

/-! ### Any value -/

def anyOf (f : Frame) (argument : Json) : Outcome :=
  let valid := ((schemas argument).map f.here).filter Outcome.isValid
  if valid.isEmpty then f.fail .noAlternative else .concat valid

def oneOf (f : Frame) (argument : Json) : Outcome :=
  match ((schemas argument).map f.here).filter Outcome.isValid with
  | [] => f.fail .noChoice
  | [outcome] => outcome
  | _ => f.fail .severalChoices

def condition (f : Frame) (argument : Json) : Outcome :=
  match f.sibling? "then", f.sibling? "else" with
  | none, none => {}
  | onTrue, onFalse =>
    let outcome := f.here argument
    if outcome.isValid then outcome ++ onTrue.elim {} f.here else onFalse.elim {} f.here

def onAny (f : Frame) (keyword : String) (argument : Json) : Outcome :=
  match keyword with
  | "type" =>
    let expected := expectedTypes argument
    f.require (expected.any (hasType f.draft f.value)) (.wrongType expected)
  | "enum" => f.require ((schemas argument).any (Json.same f.value)) (.notListed argument)
  | "const" =>
    if f.draft.since .six then
      f.require (Json.isConstant argument f.value) (.notConstant argument)
    else {}
  | "allOf" => .concat ((schemas argument).map f.here)
  | "anyOf" => anyOf f argument
  | "oneOf" => oneOf f argument
  | "not" => f.require (!(f.here argument).isValid) (.forbidden argument)
  | "if" => if f.draft.since .seven then condition f argument else {}
  | "$ref" => argument.asString?.elim {} (f.refer .plain)
  | "$dynamicRef" =>
    if f.draft.since .y2020 then argument.asString?.elim {} (f.refer .plain) else {}
  | "$recursiveRef" =>
    if f.draft = .y2019 then argument.asString?.elim {} (f.refer .recursive) else {}
  | _ => {}

/-! ### Numbers -/

def lower (f : Frame) (n : Number) (exclusive : Bool) (limit : Number) : Outcome :=
  if exclusive then f.require (limit.ltb n) (.notAboveMinimum limit)
  else f.require (!n.ltb limit) (.belowMinimum limit)

def upper (f : Frame) (n : Number) (exclusive : Bool) (limit : Number) : Outcome :=
  if exclusive then f.require (n.ltb limit) (.notBelowMaximum limit)
  else f.require (!limit.ltb n) (.aboveMaximum limit)

/-- In version 4 a limit is made exclusive by a keyword beside it. -/
def excludes (f : Frame) (keyword : String) : Bool :=
  f.draft = .four && f.sibling? keyword == some (.bool true)

def onNumber (f : Frame) (n : Number) (keyword : String) (limit : Number) : Outcome :=
  match keyword with
  | "minimum" => lower f n (excludes f "exclusiveMinimum") limit
  | "maximum" => upper f n (excludes f "exclusiveMaximum") limit
  | "exclusiveMinimum" => if f.draft.since .six then lower f n true limit else {}
  | "exclusiveMaximum" => if f.draft.since .six then upper f n true limit else {}
  | "multipleOf" => f.require (n.isMultipleOf limit) (.notMultiple limit)
  | _ => {}

/-! ### Texts -/

def isRegex (s : String) : Bool := (Pattern.readSchema? s).isSome

def matchesPattern (pattern s : String) : Bool :=
  match Pattern.readSchema? pattern with
  | some p => p.isMatch s
  | none => false

/-- Whether a text is of a media type; only JSON is looked into. -/
def isOfMediaType (mediaType s : String) : Bool :=
  mediaType != "application/json" || (Json.read s).toOption.isSome

def content (f : Frame) (s mediaType : String) : Outcome :=
  if f.draft = .six ∨ f.draft = .seven then
    match f.sibling? "contentEncoding" with
    | some (.string "base64") =>
      match TextFormat.base64Bytes s.toList with
      | none => f.fail (.wrongEncoding "base64")
      | some bytes =>
        match String.fromUTF8? ⟨bytes.toArray⟩ with
        | some decoded => f.require (isOfMediaType mediaType decoded) (.wrongMediaType mediaType)
        | none => {}
    | _ => f.require (isOfMediaType mediaType s) (.wrongMediaType mediaType)
  else {}

def onText (f : Frame) (s keyword : String) (argument : Json) : Outcome :=
  match keyword, argument with
  | "minLength", limit =>
    (limit? limit).elim {} fun n => f.require (decide (n ≤ s.length)) (.tooShort n)
  | "maxLength", limit =>
    (limit? limit).elim {} fun n => f.require (decide (s.length ≤ n)) (.tooLong n)
  | "pattern", .string pattern => f.require (matchesPattern pattern s) (.noMatch pattern)
  | "format", .string format =>
    f.require (!f.draft.checksFormats || TextFormat.accepts isRegex f.draft format s)
      (.wrongFormat format)
  | "contentMediaType", .string mediaType => content f s mediaType
  | "contentEncoding", .string "base64" =>
    if (f.draft = .six ∨ f.draft = .seven) ∧ (f.sibling? "contentMediaType").isNone then
      f.require (TextFormat.base64Bytes s.toList).isSome (.wrongEncoding "base64")
    else {}
  | _, _ => {}

/-! ### Arrays -/

def checkEach (f : Frame) (items schemas : List Json) : Outcome :=
  { Outcome.concat ((items.zip schemas).zipIdx.map fun ((v, schema), i) =>
      f.faultsBelow (toString i) v schema) with
    indices := List.range (min items.length schemas.length) }

def checkFrom (f : Frame) (items : List Json) (skipped : Nat) (schema : Json) : Outcome :=
  { Outcome.concat ((items.zipIdx.drop skipped).map fun (v, i) =>
      f.faultsBelow (toString i) v schema) with
    indices := List.range items.length }

/-- The items that stand in the first places have schemas of their own. -/
def prefixLength (f : Frame) : Nat :=
  match f.sibling? "prefixItems" with
  | some (.array schemas) => if f.draft.since .y2020 then schemas.length else 0
  | _ => 0

def contains (f : Frame) (items : List Json) (schema : Json) : Outcome :=
  let valid := items.zipIdx.filter fun (v, i) => (f.below (toString i) v schema).isValid
  let bounded := f.draft.since .y2019
  let least := if bounded then (f.sibling? "minContains").bind limit? else none
  let most := if bounded then (f.sibling? "maxContains").bind limit? else none
  let enough := decide (least.getD 1 ≤ valid.length) && most.all fun n => decide (valid.length ≤ n)
  { f.require enough .noneContained with
    indices := if f.draft.since .y2020 then valid.map Prod.snd else [] }

def onItems (f : Frame) (items : List Json) (keyword : String) (argument : Json) : Outcome :=
  match keyword, argument with
  | "items", .array schemas => checkEach f items schemas
  | "items", schema => checkFrom f items (prefixLength f) schema
  | "prefixItems", .array schemas =>
    if f.draft.since .y2020 then checkEach f items schemas else {}
  | "additionalItems", schema =>
    match f.sibling? "items" with
    | some (.array schemas) =>
      if schema = .bool false then
        f.require (decide (items.length ≤ schemas.length))
          (.additionalItems (items.drop schemas.length))
      else if schema.isObject then checkFrom f items schemas.length schema
      else {}
    | _ => {}
  | "contains", schema => if f.draft.since .six then contains f items schema else {}
  | "minItems", limit =>
    (limit? limit).elim {} fun n => f.require (decide (n ≤ items.length)) (.tooFewItems n)
  | "maxItems", limit =>
    (limit? limit).elim {} fun n => f.require (decide (items.length ≤ n)) (.tooManyItems n)
  | "uniqueItems", .bool true => f.require (Json.allDifferent items) .duplicateItems
  | _, _ => {}

/-! ### Objects -/

def namedSchemas (argument : Option Json) : Members := (argument.bind Json.asObject?).getD []

/-- Whether `additionalProperties` does the work of the keywords for members. -/
def additionalRules (f : Frame) : Bool :=
  match f.sibling? "additionalProperties" with
  | some (.bool false) | some (.object _) => true
  | _ => false

def checkMember (f : Frame) (name : String) (v schema : Json) : Outcome :=
  f.faultsBelow name v schema

def properties (f : Frame) (members schemas : Members) : Outcome :=
  .concat <| schemas.map fun (name, schema) =>
    match Members.get? name members with
    | some v =>
      let outcome := checkMember f name v schema
      { outcome with names := if outcome.isValid then [name] else [] }
    | none => {}

def patternProperties (f : Frame) (members schemas : Members) : Outcome :=
  .concat <| schemas.flatMap fun (pattern, schema) =>
    (members.filter fun (name, _) => matchesPattern pattern name).map fun (name, v) =>
      { checkMember f name v schema with names := [name] }

/-- All members in their order: each by its own schema and those of the patterns
that it matches, and by the additional one when there is none. -/
def additionalProperties (f : Frame) (members : Members) (argument : Json) : Outcome :=
  let named := namedSchemas (f.sibling? "properties")
  let patterns := namedSchemas (f.sibling? "patternProperties")
  let schemasOf (name : String) : List Json :=
    (Members.get? name named).toList ++
      (patterns.filter fun (pattern, _) => matchesPattern pattern name).map Prod.snd
  let known := Outcome.concat (members.map fun (name, v) =>
    let schemas := schemasOf name
    if schemas.isEmpty && argument != .bool false then checkMember f name v argument
    else .concat (schemas.map (checkMember f name v)))
  let extra := members.filter fun (name, _) => (schemasOf name).isEmpty
  let refused : Outcome :=
    if argument != .bool false then {}
    else
      match extra with
      | [] => {}
      | (_, v) :: _ =>
        if (f.sibling? "properties").isNone && (f.sibling? "patternProperties").isNone then
          { violations := [⟨f.path, v, .falseSchema⟩] }
        else f.fail (.additionalMembers (Members.keys extra))
  { known ++ refused with names := Members.keys members }

def required (f : Frame) (members : Members) (names : Json) : Outcome :=
  .concat <| ((schemas names).filterMap Json.asString?).map fun name =>
    f.require (Members.contains name members) (.missing name)

/-- What the presence of a member asks for: other members, or a schema. -/
def dependencies (f : Frame) (members : Members) (argument : Json) : Outcome :=
  .concat <| (namedSchemas (some argument)).map fun (name, needed) =>
    if !Members.contains name members then {}
    else
      match needed with
      | .array names => required f members (.array names)
      | schema => f.here schema

def propertyNames (f : Frame) (members : Members) (schema : Json) : Outcome :=
  if schema = .bool false then f.require members.isEmpty .falseSchema
  else
    { violations := (Members.keys members).flatMap fun name =>
        (f.apart (.string name) schema).violations.map fun violation =>
          ⟨f.path, f.value, .badName name violation.fault⟩ }

def onMembers (f : Frame) (members : Members) (keyword : String) (argument : Json) : Outcome :=
  match keyword with
  | "properties" =>
    if additionalRules f then {} else properties f members (namedSchemas (some argument))
  | "patternProperties" =>
    if additionalRules f then {} else patternProperties f members (namedSchemas (some argument))
  | "additionalProperties" =>
    if additionalRules f then additionalProperties f members argument
    else { names := Members.keys members }
  | "required" => required f members argument
  | "dependencies" => dependencies f members argument
  | "dependentRequired" =>
    if f.draft.since .y2019 then dependencies f members argument else {}
  | "dependentSchemas" =>
    if f.draft.since .y2019 then dependencies f members argument else {}
  | "propertyNames" => if f.draft.since .six then propertyNames f members argument else {}
  | "minProperties" =>
    (limit? argument).elim {} fun n => f.require (decide (n ≤ members.length)) (.tooFewMembers n)
  | "maxProperties" =>
    (limit? argument).elim {} fun n => f.require (decide (members.length ≤ n)) (.tooManyMembers n)
  | _ => {}

/-! ### What no other keyword was responsible for -/

/-- Members that nothing vouches for, so far. -/
def unevaluatedMembers (f : Frame) (members : Members) (known : List String) (schema : Json) :
    Outcome :=
  let extra := members.filter fun (name, v) =>
    !known.contains name && !(f.below name v schema).isValid
  { f.require extra.isEmpty (.unevaluatedMembers (Members.keys extra)) with
    names := Members.keys members }

def unevaluatedItems (f : Frame) (items : List Json) (known : List Nat) (schema : Json) : Outcome :=
  let extra := items.zipIdx.filter fun (v, i) =>
    !known.contains i && !(f.below (toString i) v schema).isValid
  { f.require extra.isEmpty (.unevaluatedItems (extra.map Prod.fst)) with
    indices := List.range items.length }

def check (f : Frame) (keyword : String) (argument : Json) : Outcome :=
  onAny f keyword argument ++
    match f.value with
    | .number n => (number? argument).elim {} (onNumber f n keyword)
    | .string s => onText f s keyword argument
    | .array items => onItems f items keyword argument
    | .object members => onMembers f members keyword argument
    | _ => {}

/-- The outcome of a keyword, given what the others vouch for. -/
def checkLast (f : Frame) (known : Outcome) (keyword : String) (argument : Json) : Outcome :=
  if !f.draft.since .y2019 then {}
  else
    match keyword, f.value with
    | "unevaluatedProperties", .object members =>
      unevaluatedMembers f members known.names argument
    | "unevaluatedItems", .array items => unevaluatedItems f items known.indices argument
    | _, _ => {}

def checkAll (f : Frame) (keywords : Members) : Outcome :=
  let outcomes := keywords.map fun (keyword, argument) => check f keyword argument
  let known := Outcome.concat outcomes
  (Outcome.concat ((keywords.zip outcomes).map fun ((keyword, argument), outcome) =>
    outcome ++ checkLast f known keyword argument)).settle

end Keyword
end Rulebook
