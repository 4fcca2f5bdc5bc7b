import Rulebook.Reference.Pointer

/-!
The rule that governs a place of a payload. Array indices become the marker for
an element, and markers at the end are dropped, because the elements of an
array of scalars are governed by the rule of the array.
-/

namespace Rulebook
namespace RuleKey

def marker : String := "$"

def segment (s : String) : String :=
  if !s.isEmpty && s.toList.all Char.isDigit then marker else Pointer.unescapeSegment s

def dropMarkers (segments : List String) : List String :=
  (segments.reverse.dropWhile (· == marker)).reverse

/-- The key of the rule that governs the value a pointer leads to. -/
def ofPointer (pointer : String) : String :=
  let segments := (Pointer.splitSlashes pointer.toList).drop 1
  ".".intercalate (dropMarkers (segments.map fun s => segment (String.ofList s)))

end RuleKey
end Rulebook
