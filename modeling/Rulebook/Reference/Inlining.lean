import Rulebook.Reference.Chain

/-!
Replacing every reference inside a value by a copy of what it stands for, as is
needed before the value moves to another document. Definitions and data are
copied as they are, and the names of properties are never read as keywords.
-/

namespace Rulebook
namespace Json

/-- Keywords whose values are data or definitions rather than live schemas. -/
def dataKeywords : List String := ["definitions", "$defs", "enum", "default", "examples", "const"]

/-- Keywords whose values map names to schemas. -/
def nameMapKeywords : List String := ["properties", "patternProperties"]

def internalReference (members : Members) : Option String :=
  ((Members.get? "$ref" members).bind asString?).filter fun r => r == "#" || isPointer r

mutual

/-- Replace every reference by what `expand` makes of it. -/
def inlineWith (expand : String → Except ResolveError Json) : Json → Except ResolveError Json
  | .object members =>
    match internalReference members with
    | some reference => (expand reference).map (withDisplay (Json.object members).display)
    | none => (inlineMembers expand members).map .object
  | .array items => (inlineItems expand items).map .array
  | v => .ok v

def inlineItems (expand : String → Except ResolveError Json) :
    List Json → Except ResolveError (List Json)
  | [] => .ok []
  | v :: rest => do return (← inlineWith expand v) :: (← inlineItems expand rest)

def inlineMembers (expand : String → Except ResolveError Json) :
    List (String × Json) → Except ResolveError (List (String × Json))
  | [] => .ok []
  | (k, v) :: rest => do
    let w ← if k ∈ dataKeywords then .ok v
      else if k ∈ nameMapKeywords then inlineNameMap expand v
      else inlineWith expand v
    return (k, w) :: (← inlineMembers expand rest)

/-- A map of names; anything but an object is read like any other value. -/
def inlineNameMap (expand : String → Except ResolveError Json) : Json → Except ResolveError Json
  | .object members => (inlineValues expand members).map .object
  | .array items => (inlineItems expand items).map .array
  | v => .ok v

def inlineValues (expand : String → Except ResolveError Json) :
    List (String × Json) → Except ResolveError (List (String × Json))
  | [] => .ok []
  | (k, v) :: rest => do
    let w ← inlineWith expand v
    return (k, w) :: (← inlineValues expand rest)

end

/-- Replace references by copies, when only the pointers in `unused` may still
be entered. -/
def inlineWithin (root : Json) (unused : List String) (v : Json) : Except ResolveError Json :=
  inlineWith (fun pointer =>
    if pointer = "#" then .ok (selfReference root)
    else if pointer ∈ unused then do
      let target ← Pointer.resolve root pointer
      inlineWithin root (without pointer unused) target
    else .error (.circular pointer)) v
termination_by unused.length
decreasing_by exact length_without_lt ‹_›

/-- A value in which no reference into `root` is left to follow. -/
def inlineReferences (root v : Json) : Except ResolveError Json :=
  inlineWithin root (references v ++ references root) v

end Json
end Rulebook
