import Rulebook.Validation.Evaluation
import Rulebook.Validation.Metaschema.Four
import Rulebook.Validation.Metaschema.Seven
import Rulebook.Validation.Metaschema.Six
import Rulebook.Validation.Metaschema.Y2019
import Rulebook.Validation.Metaschema.Y2020

/-!
Validating a payload. The schema itself is checked first: its references have to
be obtainable, the schema of its version has to accept it, and its expressions
and references have to make sense.
-/

namespace Rulebook

namespace Metaschema

def documents (draft : Draft) : List Json :=
  match draft with
  | .four => [four]
  | .six => [six]
  | .seven => [seven]
  | .y2019 => Y2019.documents
  | .y2020 => Y2020.documents

def registryOf (draft : Draft) : Registry :=
  (documents draft).foldl (fun registry document =>
    registry ++ Registry.ofDocument draft ((draft.idOf? document).getD "") document) {}

def registry : Registry := Draft.all.foldl (fun registry draft => registry ++ registryOf draft) {}

def violations (draft : Draft) (schema : Json) : List Violation :=
  let registry := registryOf draft
  match registry.resource? draft.identifier with
  | some resource => registry.violations resource schema
  | none => []

end Metaschema

structure SchemaFault where
  value : Json
  fault : Fault

def SchemaFault.message (f : SchemaFault) : String := f.fault.message f.value

namespace SchemaFault

def ofReference (fault : ReferenceFault) : SchemaFault := ⟨.null, .reference fault⟩

end SchemaFault

namespace Registry

def unobtainable? (known : Registry) (document : Registry) : Option ReferenceFault :=
  document.references.findSome? fun { base, reference } =>
    if reference.startsWith "#" then none
    else
      match Identifier.fault? reference with
      | some fault => some (.notReference reference fault)
      | none =>
        let uri := Identifier.join base (Identifier.splitFragment reference).1
        if (known.resource? uri).isSome then none else some (Site.unobtainable uri)

def usedBelow (members : Members) (keyword : String) (argument : Json) : List Json :=
  match keyword with
  | "definitions" | "$defs" | "contentSchema" | "then" | "else" => []
  | "if" =>
    let branches := (Members.get? "then" members).toList ++ (Members.get? "else" members).toList
    if branches.isEmpty then [] else argument :: branches
  | "dependencies" =>
    (Keyword.namedSchemas (some argument)).filterMap fun (_, schema) =>
      if schema.asArray?.isSome then none else some schema
  | _ =>
    match SchemaPlace.ofKeyword keyword, argument with
    | .single, schema => [schema]
    | .singleOrList, .array schemas | .list, .array schemas => schemas
    | .singleOrList, schema => [schema]
    | .named, .object members => members.map Prod.snd
    | _, _ => []

def checkPatterns (keyword : String) (argument : Json) : Except SchemaFault Unit :=
  match keyword, argument with
  | "pattern", .string pattern =>
    if Keyword.isRegex pattern then .ok () else .error ⟨argument, .wrongFormat "regex"⟩
  | "patternProperties", .object members =>
    members.forM fun (pattern, schema) =>
      if Keyword.isRegex pattern then .ok () else .error ⟨schema, .wrongFormat "regex"⟩
  | _, _ => .ok ()

def referenceKind? (draft : Draft) (keyword : String) : Option ReferenceKind :=
  match keyword with
  | "$ref" => some .plain
  | "$dynamicRef" => if draft.since .y2020 then some .plain else none
  | "$recursiveRef" => if draft = .y2019 then some .recursive else none
  | _ => none

/-- Check that a schema can be used. The state holds the targets of references
that have been checked; each level takes one unit of fuel. -/
def checkUse (registry : Registry) :
    Nat → Site → Json → StateT (List String) (Except SchemaFault) Unit
  | 0, _, _ => pure ()
  | fuel + 1, site, schema => do
    match schema with
    | .bool _ => pure ()
    | .object members =>
      let site := site.enter schema
      (site.draft.keywords members).forM fun (keyword, argument) => do
        match referenceKind? site.draft keyword, argument with
        | some kind, .string reference =>
          match site.find registry kind reference with
          | .error fault => throw (.ofReference fault)
          | .ok (there, target) =>
            let key := there.targetKey reference
            if !(← get).contains key then
              modify (key :: ·)
              checkUse registry fuel there target
        | some _, _ => throw ⟨argument, .wrongType [.string]⟩
        | none, _ =>
          checkPatterns keyword argument
          (usedBelow members keyword argument).forM (checkUse registry fuel site)
    | _ => throw ⟨schema, .wrongType [.boolean, .object]⟩

end Registry

inductive ValidateError where
  | invalidSchema (message : String)
  | invalid (violations : List Violation)

namespace ValidateError

def message : ValidateError → String
  | .invalidSchema message => "invalid schema: " ++ message
  | .invalid violations => "validation failed with " ++ toString violations.length ++ " error(s)"

def exitCode : ValidateError → Nat
  | .invalidSchema _ => 2
  | .invalid _ => 1

end ValidateError

namespace Json

/-- The resource that a schema is, with everything it may refer to, or why the
schema cannot be used. -/
def asSchema (schema : Json) : Except SchemaFault (Registry × SchemaResource) := do
  let draft ← (Draft.latest.detect schema).mapError fun name => .ofReference (.unknownVersion name)
  let uri := Registry.baseOf draft Identifier.anonymous schema
  let document := Registry.ofDocument draft uri schema
  let registry := document ++ Metaschema.registry
  if let some fault := registry.unobtainable? document then throw (.ofReference fault)
  if let violation :: _ := Metaschema.violations draft schema then
    throw ⟨violation.value, violation.fault⟩
  let _ ← (registry.checkUse (registry.fuelFor schema) { base := uri, draft } schema).run []
  return (registry, ⟨uri, draft, schema⟩)

def validate (schema payload : Json) : Except ValidateError Unit :=
  match schema.asSchema with
  | .error fault => .error (.invalidSchema fault.message)
  | .ok (registry, resource) =>
    match registry.violations resource payload with
    | [] => .ok ()
    | violations => .error (.invalid violations)

end Json
end Rulebook
