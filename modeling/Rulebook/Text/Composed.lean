import Rulebook.Unicode.Composition
import Rulebook.Unicode.Packed

/-!
Composed form: characters and the marks after them are written with as few
characters as possible, the marks in order of their classes.
-/

namespace Rulebook
namespace Composed

def unfold (start n : Nat) : Nat := if n % 2 = 0 then start + n / 2 else start - (n + 1) / 2

/-- The first character of the block of marks, from which second parts count. -/
def firstMark : Nat := 0x300

def compositesFrom (position : Nat) : List Nat → List (Nat × Nat × Nat)
  | gap :: base :: mark :: rest =>
    (position + gap, unfold (position + gap) base, firstMark + mark) ::
      compositesFrom (position + gap) rest
  | _ => []

def composites : List (Nat × Nat × Nat) := compositesFrom 0 (Unicode.unpack Unicode.composites)

def markClassesFrom (position : Nat) : List Nat → List (Nat × Nat × Nat)
  | gap :: length :: mark :: rest =>
    (position + gap, position + gap + length, mark) ::
      markClassesFrom (position + gap + length + 1) rest
  | _ => []

def markClasses : List (Nat × Nat × Nat) := markClassesFrom 0 (Unicode.unpack Unicode.markClasses)

def markClass (n : Nat) : Nat :=
  ((markClasses.find? fun (lo, hi, _) => lo ≤ n && n ≤ hi).map (·.2.2)).getD 0

/-! ### Syllables of Hangul are composed by arithmetic -/

def syllableBase : Nat := 0xAC00
def leadBase : Nat := 0x1100
def vowelBase : Nat := 0x1161
def tailBase : Nat := 0x11A7

def isSyllable (n : Nat) : Bool := syllableBase ≤ n && n < syllableBase + 11172

def parts? (n : Nat) : Option (Nat × Nat) :=
  if isSyllable n then
    let i := n - syllableBase
    if i % 28 = 0 then some (leadBase + i / 588, vowelBase + i % 588 / 28)
    else some (n - i % 28, tailBase + i % 28)
  else (composites.find? (·.1 == n)).map (·.2)

def compose? (a b : Nat) : Option Nat :=
  if leadBase ≤ a ∧ a < leadBase + 19 ∧ vowelBase ≤ b ∧ b < vowelBase + 21 then
    some (syllableBase + ((a - leadBase) * 21 + (b - vowelBase)) * 28)
  else if isSyllable a ∧ (a - syllableBase) % 28 = 0 ∧ tailBase < b ∧ b < tailBase + 28 then
    some (a + (b - tailBase))
  else (composites.find? fun (_, base, mark) => base == a && mark == b).map (·.1)

/-- A character in its smallest parts. No character is composed more than four
times over. -/
def decompose : Nat → Nat → List Nat
  | 0, n => [n]
  | depth + 1, n =>
    match parts? n with
    | some (a, b) => decompose depth a ++ [b]
    | none => [n]

def sortMarks (pending : List Nat) : List Nat → List Nat
  | [] => sorted pending
  | n :: rest =>
    if markClass n = 0 then sorted pending ++ n :: sortMarks [] rest
    else sortMarks (pending ++ [n]) rest
where
  sorted (marks : List Nat) : List Nat :=
    marks.mergeSort fun a b => decide (markClass a ≤ markClass b)

/-- Compose marks with the character before them. `between` are the marks that
stay, in reverse; one of the same class, or of a greater one, blocks the next. -/
def composeFrom (base : Nat) (between : List Nat) : List Nat → List Nat
  | [] => base :: between.reverse
  | n :: rest =>
    let class' := markClass n
    let blocked := match between with
      | [] => false
      | last :: _ => class' ≤ markClass last
    match if blocked then none else compose? base n with
    | some composed => composeFrom composed between rest
    | none =>
      if class' = 0 then base :: between.reverse ++ composeFrom n [] rest
      else composeFrom base (n :: between) rest

def normalize (text : List Nat) : List Nat :=
  match sortMarks [] (text.flatMap (decompose 4)) with
  | [] => []
  | n :: rest => composeFrom n [] rest

end Composed
end Rulebook
