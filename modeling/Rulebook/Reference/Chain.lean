import Rulebook.Reference.Display
import Rulebook.Reference.Pointer

/-!
Following references inside one document. A reference may lead to another one,
and the `items` of a node are followed like the node. Every pointer is
followed at most once: the pointers that may still be followed are kept in a
list, which becomes shorter with every step.
-/

namespace Rulebook
namespace Json

mutual

/-- Every text that stands under `$ref`, at any depth. -/
def references : Json → List String
  | .object members => referencesOfMembers members
  | .array items => referencesOfItems items
  | _ => []

def referencesOfMembers : List (String × Json) → List String
  | [] => []
  | (k, v) :: rest =>
    (if k = "$ref" then v.asString?.toList else []) ++ references v ++ referencesOfMembers rest

def referencesOfItems : List Json → List String
  | [] => []
  | v :: rest => references v ++ referencesOfItems rest

end

/-- What stands in for a reference to the whole document: its type alone, so
that a document that refers to itself is not expanded. -/
def selfReference (root : Json) : Json :=
  .object [("type", (root.get? "type").getD (.string "object"))]

def isPointer (reference : String) : Bool :=
  match reference.toList with
  | '#' :: '/' :: _ => true
  | _ => false

/-- The members of `items` over which the value that their reference stands
for has been laid. -/
def mergeItems (items : Json) (target : Json) : Members :=
  Members.extend (Members.erase "$ref" (items.asObject?.getD [])) (target.asObject?.getD [])

/-- Replace the reference on a node, or on its `items`, by what `expand` makes
of it. The pointers that were followed are passed on. -/
def dereferenceWith (expand : Json → Except ResolveError (Json × List String)) (node : Json) :
    Except ResolveError (Json × List String) :=
  match node.get? "$ref" with
  | some reference => expand reference
  | none =>
    match node, node.get? "items" with
    | .object members, some items =>
      match items.get? "$ref" with
      | some reference => do
        let (target, followed) ← expand reference
        return (.object (Members.insert "items" (.object (mergeItems items target)) members),
          followed)
      | none => .ok (node, [])
    | _, _ => .ok (node, [])

def without (pointer : String) (unused : List String) : List String :=
  unused.filter fun r => r != pointer

theorem length_without_lt {pointer : String} {unused : List String} (h : pointer ∈ unused) :
    (without pointer unused).length < unused.length :=
  List.length_filter_lt_length_iff_exists.2 ⟨pointer, h, by simp⟩

/-- What a reference stands for, and the pointers followed on the way, when
only the pointers in `unused` may be followed. -/
def expandReference (root : Json) (unused : List String) (reference : Json) :
    Except ResolveError (Json × List String) :=
  match reference with
  | .string pointer =>
    if pointer = "#" then .ok (selfReference root, [])
    else if !isPointer pointer then .error (.externalReference pointer)
    else if pointer ∈ unused then do
      let target ← Pointer.resolve root pointer
      let (v, followed) ←
        dereferenceWith (fun r => expandReference root (without pointer unused) r) target
      return (v, pointer :: followed)
    else .error (.circular pointer)
  | other => .error (.unsupported other.compact .notText)
termination_by unused.length
decreasing_by exact length_without_lt ‹_›

/-- A node without the reference on it or on its `items`, and the pointers
that were followed. -/
def dereferenceTraced (root node : Json) : Except ResolveError (Json × List String) :=
  dereferenceWith (expandReference root (references node ++ references root)) node

def dereference (root node : Json) : Except ResolveError Json :=
  (dereferenceTraced root node).map Prod.fst

/-- A property without its reference, under the display text it was declared
with. -/
def dereferenceProperty (root node : Json) : Except ResolveError Json :=
  (dereference root node).map (withDisplay node.display)

end Json
end Rulebook
