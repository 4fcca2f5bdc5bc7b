import Rulebook.Json.Members
import Rulebook.Number.Order

/-!
When two values are the same to a schema: numbers are compared as doubles, so
that `1` and `1.0` are the same, and members have to stand in the same order.
-/

namespace Rulebook
namespace Json

mutual

def same : Json → Json → Bool
  | .null, .null => true
  | .bool a, .bool b => a == b
  | .number a, .number b => a.sameDouble b
  | .string a, .string b => a == b
  | .array a, .array b => sameItems a b
  | .object a, .object b => sameMembers a b
  | _, _ => false

def sameItems : List Json → List Json → Bool
  | [], [] => true
  | a :: as, b :: bs => same a b && sameItems as bs
  | _, _ => false

def sameMembers : List (String × Json) → List (String × Json) → Bool
  | [], [] => true
  | (k, a) :: as, (l, b) :: bs => k == l && same a b && sameMembers as bs
  | _, _ => false

end

def allDifferent : List Json → Bool
  | [] => true
  | v :: rest => !rest.any (same v) && allDifferent rest

/-- Whether a value is a constant. Numbers may differ a little, but not those
inside arrays and objects. -/
def isConstant (expected v : Json) : Bool :=
  match expected, v with
  | .number a, .number b => a.nearlyEqual b
  | _, _ => same expected v

end Json
end Rulebook
