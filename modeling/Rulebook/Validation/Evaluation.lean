import Rulebook.Validation.Keyword

/-!
Checking values against schemas that refer to each other. At one value a
reference is followed once on the way to it, so that schemas which only lead back
to themselves accept everything.
-/

namespace Rulebook

mutual

def Json.nodeCount : Json → Nat
  | .array items => Json.nodeCountItems items + 1
  | .object members => Json.nodeCountMembers members + 1
  | _ => 1

def Json.nodeCountItems : List Json → Nat
  | [] => 0
  | v :: rest => v.nodeCount + Json.nodeCountItems rest

def Json.nodeCountMembers : List (String × Json) → Nat
  | [] => 0
  | (_, v) :: rest => v.nodeCount + Json.nodeCountMembers rest

end

namespace Site

def find (registry : Registry) (site : Site) (kind : ReferenceKind) (reference : String) :
    Except ReferenceFault (Site × Json) :=
  match kind with
  | .plain => site.lookup registry reference
  | .recursive => site.lookupRecursive registry

def targetKey (site : Site) (reference : String) : String :=
  site.base ++ "#" ++ (Identifier.splitFragment reference).2

end Site

def Draft.keywords (draft : Draft) (members : Members) : Members :=
  if draft.referenceHides then
    match Members.get? "$ref" members with
    | some reference => [("$ref", reference)]
    | none => members
  else members

namespace Registry

/-- Check a value against a schema. `followed` are the targets of the references
that led here at the same value; each level takes one unit of fuel. -/
def check (registry : Registry) : Nat → Site → List String → List String → Json → Json → Outcome
  | 0, _, _, _, _, _ => {}
  | fuel + 1, site, followed, path, schema, value =>
    match schema with
    | .bool false => { violations := [⟨path, value, .falseSchema⟩] }
    | .object members =>
      let site := site.enter schema
      let frame : Frame :=
        { draft := site.draft
          siblings := members
          path
          value
          here := fun s => check registry fuel site followed path s value
          below := fun segment v s => check registry fuel site [] (path ++ [segment]) s v
          apart := fun v s => check registry fuel site [] [] s v
          refer := fun kind reference =>
            match site.find registry kind reference with
            | .error _ => {}
            | .ok (there, target) =>
              let key := there.targetKey reference
              if followed.contains key then {}
              else check registry fuel there (key :: followed) path target value }
      Keyword.checkAll frame (site.draft.keywords members)
    | _ => {}

/-- Levels that no check needs more than: at each value on the way down, every
schema at most twice. -/
def fuelFor (registry : Registry) (value : Json) : Nat :=
  let schemas := registry.resources.foldl
    (fun count resource => count + resource.contents.nodeCount) 0
  2 * (value.nodeCount + 1) * (schemas + 2)

def violations (registry : Registry) (resource : SchemaResource) (value : Json) : List Violation :=
  let site : Site := { base := resource.uri, draft := resource.draft }
  (registry.check (registry.fuelFor value) site [] [] resource.contents value).violations

end Registry
end Rulebook
