import Rulebook.Json.Members
import Rulebook.Number.Literal
import Rulebook.Text.Blank

/-!
Reading numbers, flags and counts from schema keywords, which may hold them as
text.
-/

namespace Rulebook
namespace Json

/-- The number that a value is or spells. It is finite. -/
def coerceNumber : Json → Option Binary64
  | .number n => some n.toDouble
  | .string s => (Literal.read? (Text.trim s.toList)).bind Literal.finite?
  | _ => none

/-- The flag that a value is or spells; a number counts as true unless it is
zero. -/
def coerceFlag : Json → Option Bool
  | .bool b => some b
  | .number n => some !n.toDouble.isZero
  | .string s =>
    let trimmed := Text.trim s.toList
    if String.ofList trimmed = "true" then some true
    else if String.ofList trimmed = "false" then some false
    else (Literal.read? trimmed).map (!·.isZero)
  | _ => none

def maxCount : Nat := 2 ^ 64 - 1

/-- The count that a double stands for, if it is integral, not negative and at
most two to the 64th, which is taken for the largest count. -/
def countOfDouble (x : Binary64) : Option Nat :=
  if 0 ≤ x.scaled ∧ x.isInteger ∧ x.truncated ≤ 2 ^ 64 then some (min x.truncated maxCount)
  else none

def coerceCount (v : Json) : Option Nat := v.coerceNumber.bind countOfDouble

end Json
end Rulebook
