import Rulebook.Json.Path
import Rulebook.Reference.Pointer
import Rulebook.Validation.Draft
import Rulebook.Validation.Fault

/-!
Where the references inside schemas lead: the schemas that have an identifier,
the anchors in them, and the way of a pointer into them.
-/

namespace Rulebook

inductive SchemaPlace where
  | none
  | single
  | list
  | singleOrList
  | named
deriving DecidableEq

namespace SchemaPlace

def ofKeyword (keyword : String) : SchemaPlace :=
  match keyword with
  | "additionalItems" | "additionalProperties" | "contains" | "contentSchema" | "else" | "if"
  | "not" | "propertyNames" | "then" | "unevaluatedItems" | "unevaluatedProperties" => single
  | "allOf" | "anyOf" | "oneOf" | "prefixItems" => list
  | "items" => singleOrList
  | "$defs" | "definitions" | "dependentSchemas" | "dependencies" | "patternProperties"
  | "properties" => named
  | _ => none

end SchemaPlace

structure SchemaResource where
  uri : String
  draft : Draft
  contents : Json

/-- A schema that a resource has a name for. A dynamic one is replaced by that
of an outer resource with the same name. -/
structure SchemaAnchor where
  uri : String
  name : String
  dynamic : Bool
  draft : Draft
  contents : Json

structure SchemaReference where
  base : String
  reference : String

structure Registry where
  resources : List SchemaResource := []
  anchors : List SchemaAnchor := []
  references : List SchemaReference := []

namespace Registry

def append (a b : Registry) : Registry where
  resources := a.resources ++ b.resources
  anchors := a.anchors ++ b.anchors
  references := a.references ++ b.references

instance : Append Registry := ⟨append⟩

def resource? (registry : Registry) (uri : String) : Option SchemaResource :=
  registry.resources.find? (·.uri == uri)

/-- The names that a schema gives itself, and whether they are dynamic. -/
def anchorNames (draft : Draft) (schema : Json) : List (String × Bool) :=
  if draft.since .y2019 then
    let dynamic := if draft.since .y2020 then schema.text? "$dynamicAnchor" else none
    ((schema.text? "$anchor").toList.map fun name => (name, false)) ++
      (dynamic.toList.map fun name => (name, true))
  else
    match (schema.text? draft.idKeyword).map String.toList with
    | some ('#' :: name) => [(String.ofList name, false)]
    | _ => []

def ownReferences (schema : Json) : List String :=
  (schema.text? "$ref").toList

/-- What a schema adds to a registry, apart from the schemas inside it. -/
def ofSchema (draft : Draft) (base : String) (schema : Json) : Registry where
  resources := if (draft.idOf? schema).isSome then [⟨base, draft, schema⟩] else []
  anchors := (anchorNames draft schema).map fun (name, dynamic) =>
    ⟨base, name, dynamic, draft, schema⟩
  references := (ownReferences schema).map fun reference => ⟨base, reference⟩

def baseOf (draft : Draft) (base : String) (schema : Json) : String :=
  match draft.idOf? schema with
  | some id => if (Identifier.fault? id).isSome then base else Identifier.join base id
  | none => base

mutual

def collect (draft : Draft) (base : String) : SchemaPlace → Json → Registry
  | .single, .object members | .singleOrList, .object members =>
    let base := baseOf draft base (.object members)
    ofSchema draft base (.object members) ++ collectKeywords draft base members
  | .list, .array items | .singleOrList, .array items => collectItems draft base items
  | .named, .object members => collectNamed draft base members
  | _, _ => {}

def collectKeywords (draft : Draft) (base : String) : List (String × Json) → Registry
  | [] => {}
  | (keyword, v) :: rest =>
    collect draft base (.ofKeyword keyword) v ++ collectKeywords draft base rest

def collectItems (draft : Draft) (base : String) : List Json → Registry
  | [] => {}
  | v :: rest => collect draft base .single v ++ collectItems draft base rest

def collectNamed (draft : Draft) (base : String) : List (String × Json) → Registry
  | [] => {}
  | (_, v) :: rest => collect draft base .single v ++ collectNamed draft base rest

end

def ofDocument (draft : Draft) (uri : String) (document : Json) : Registry :=
  { resources := [⟨uri, draft, document⟩] } ++ collect draft uri .single document

end Registry

/-- A place from which references are made: the identifier around it, those
that led to it, the last one first, and the version of its keywords. -/
structure Site where
  base : String
  scopes : List String := []
  draft : Draft

namespace Site

/-- Go to a resource; the one that is left counts for dynamic references. -/
def moveTo (site : Site) (uri : String) : Site :=
  if site.scopes.isEmpty || uri != site.base then
    { site with base := uri, scopes := site.base :: site.scopes }
  else { site with base := uri }

def enter (site : Site) (schema : Json) : Site :=
  match site.draft.idOf? schema with
  | none => site
  | some _ => site.moveTo (Registry.baseOf site.draft site.base schema)

/-- Follow the segments of a pointer. Identifiers on the way change the site. -/
def followPointer (site : Site) (pointer : String) : List (List Char) → Json →
    Except ReferenceFault (Site × Json)
  | [], v => .ok (site, v)
  | raw :: rest, v =>
    match v with
    | .array items =>
      match arrayIndex? (String.ofList raw) with
      | none => .error (.badIndex pointer (String.ofList raw))
      | some i =>
        match items[i]? with
        | none => .error (.noSuchPointer pointer)
        | some w => followPointer (site.enter w) pointer rest w
    | v =>
      match v.get? (Pointer.unescapeSegment (String.ofList raw)) with
      | none => .error (.noSuchPointer pointer)
      | some w => followPointer (site.enter w) pointer rest w

/-- The dynamic anchor of the outermost resource that has one of the name. -/
def outermostAnchor (registry : Registry) (site : Site) (anchor : SchemaAnchor) : SchemaAnchor :=
  site.scopes.foldl (fun last uri =>
    match registry.anchors.find? fun a => a.uri == uri && a.name == anchor.name && a.dynamic with
    | some outer => outer
    | none => last) anchor

def unobtainable (uri : String) : ReferenceFault :=
  match (Identifier.ofString uri).scheme with
  | some "http" | some "https" =>
    .unobtainable uri ("error sending request for url (" ++ uri ++ ")")
  | some "file" => .unobtainable uri "No such file or directory (os error 2)"
  | some scheme => .unknownScheme uri scheme
  | none => .unknownScheme uri ""

def lookup (registry : Registry) (site : Site) (reference : String) :
    Except ReferenceFault (Site × Json) := do
  if let some fault := Identifier.fault? reference then throw (.notReference reference fault)
  let (target, fragment) := Identifier.splitFragment reference
  let uri := if target.isEmpty then site.base else Identifier.join site.base target
  let some resource := registry.resource? uri | throw (unobtainable uri)
  let there := { site.moveTo uri with draft := resource.draft }
  match fragment.toList with
  | [] => return (there, resource.contents)
  | '/' :: path =>
    match Percent.decode? (String.ofList path) with
    | none => throw (.badPointer fragment)
    | some path => there.followPointer fragment (Pointer.splitSlashes path.toList) resource.contents
  | name =>
    match registry.anchors.find? fun a => a.uri == uri && a.name == fragment with
    | none =>
      if name.contains '/' then throw (.invalidAnchor fragment) else throw (.noSuchAnchor fragment)
    | some anchor =>
      let anchor := if anchor.dynamic then outermostAnchor registry there anchor else anchor
      return ({ there.moveTo anchor.uri with draft := anchor.draft }, anchor.contents)

def isRecursive (schema : Json) : Bool := schema.get? "$recursiveAnchor" == some (.bool true)

/-- The resource that a recursive reference means: the outermost of those around
it that allow to be replaced without a gap. -/
def lookupRecursive (registry : Registry) (site : Site) : Except ReferenceFault (Site × Json) := do
  let (there, contents) ← site.lookup registry "#"
  if !isRecursive contents then return (there, contents)
  let outer := (site.scopes.filterMap fun uri => registry.resource? uri).takeWhile fun resource =>
    isRecursive resource.contents
  match outer.getLast? with
  | some resource =>
    return ({ there.moveTo resource.uri with draft := resource.draft }, resource.contents)
  | none => return (there, contents)

end Site
end Rulebook
