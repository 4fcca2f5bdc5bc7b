import Rulebook.Json.Members

/-!
The versions of the schema language. A schema may name its version; otherwise
the latest one is meant.
-/

namespace Rulebook

inductive Draft where
  | four | six | seven | y2019 | y2020
deriving DecidableEq

namespace Draft

def order : Draft → Nat
  | four => 4
  | six => 6
  | seven => 7
  | y2019 => 2019
  | y2020 => 2020

def since (draft first : Draft) : Bool := first.order ≤ draft.order

def latest : Draft := y2020

def publisher : String := "json-schema.org"

def directory : Draft → String
  | four => "http://" ++ publisher ++ "/draft-04/"
  | six => "http://" ++ publisher ++ "/draft-06/"
  | seven => "http://" ++ publisher ++ "/draft-07/"
  | y2019 => "https://" ++ publisher ++ "/draft/2019-09/"
  | y2020 => "https://" ++ publisher ++ "/draft/2020-12/"

def identifier (draft : Draft) : String := draft.directory ++ "schema"

def all : List Draft := [y2020, y2019, seven, six, four]

def dropHashes (s : String) : String :=
  String.ofList (s.toList.reverse.dropWhile (· == '#')).reverse

/-- The version that a schema names; an unknown name is an error. -/
def detect (default : Draft) (schema : Json) : Except String Draft :=
  match schema.text? "$schema" with
  | none => .ok default
  | some name =>
    let name := dropHashes name
    match all.find? fun draft => draft.identifier == name with
    | some draft => .ok draft
    | none => .error name

/-- Up to version 7 a reference hides every other keyword beside it. -/
def referenceHides (draft : Draft) : Bool := !draft.since y2019

def checksFormats (draft : Draft) : Bool := !draft.since y2019

def idKeyword : Draft → String
  | four => "id"
  | _ => "$id"

/-- The identifier that a schema gives itself. In older versions a reference
hides it, and one that is only a fragment names an anchor instead. -/
def idOf? (draft : Draft) (schema : Json) : Option String :=
  match schema.text? draft.idKeyword with
  | none => none
  | some id =>
    if draft.since y2019 then some (dropHashes id)
    else if (schema.get? "$ref").isSome || id.toList.head? == some '#' then none
    else some (dropHashes id)

end Draft
end Rulebook
