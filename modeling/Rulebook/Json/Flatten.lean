import Rulebook.Json.Members

/-!
Flattening a document into its leaves, each with the path that leads to it.
Leaves are listed in document order. Empty containers are leaves, and so is
what lies at the depth limit.
-/

namespace Rulebook

structure FlattenOptions where
  /-- What stands between the segments of a joined path. -/
  delimiter : String := "."
  /-- The most segments that a path may have. -/
  maxDepth : Option Nat := none
  /-- Whether arrays are leaves. -/
  safe : Bool := false

structure Leaf where
  path : List String
  value : Json
deriving DecidableEq

namespace Leaf

def key (delimiter : String) (leaf : Leaf) : String := delimiter.intercalate leaf.path

def lastSegment (leaf : Leaf) : String := leaf.path.getLast?.getD ""

def under (segment : String) (leaf : Leaf) : Leaf := { leaf with path := segment :: leaf.path }

end Leaf

namespace FlattenOptions

/-- Whether a value that `depth` segments lead to is flattened further. -/
def descends (options : FlattenOptions) (depth : Nat) (v : Json) : Bool :=
  !options.maxDepth.any (decide <| · ≤ depth) &&
    match v with
    | .object members => !members.isEmpty
    | .array items => !options.safe && !items.isEmpty
    | _ => false

end FlattenOptions

namespace Json

mutual

def leavesBelow (options : FlattenOptions) (depth : Nat) : Json → List Leaf
  | .object members => leavesOfMembers options (depth + 1) members
  | .array items => leavesOfItems options (depth + 1) 0 items
  | _ => []

def leavesOfMembers (options : FlattenOptions) (depth : Nat) :
    List (String × Json) → List Leaf
  | [] => []
  | (k, v) :: rest =>
    (if options.descends depth v then (leavesBelow options depth v).map (Leaf.under k)
      else [⟨[k], v⟩]) ++ leavesOfMembers options depth rest

def leavesOfItems (options : FlattenOptions) (depth index : Nat) : List Json → List Leaf
  | [] => []
  | v :: rest =>
    (if options.descends depth v then
        (leavesBelow options depth v).map (Leaf.under (toString index))
      else [⟨[toString index], v⟩]) ++ leavesOfItems options depth (index + 1) rest

end

/-- The leaves of a document. A scalar document has none. -/
def leaves (options : FlattenOptions) (document : Json) : List Leaf :=
  leavesBelow options 0 document

/-- The leaves as one object, under their joined paths. -/
def flatten (options : FlattenOptions) (document : Json) : Members :=
  (document.leaves options).foldl
    (fun acc leaf => Members.insert (leaf.key options.delimiter) leaf.value acc) []

end Json
end Rulebook
