import Rulebook.Number.Power
import Rulebook.Pattern.Expr

/-!
The memory that an automaton for an expression takes when it reads the bytes of
a text from the last to the first. Counted repetitions are copied, so that short
expressions may stand for huge automata; those above a limit are refused.
-/

namespace Rulebook
namespace CharSet

abbrev ByteRanges := List (Nat × Nat)

/-- The texts of ranges of bytes that spell the numbers from `lo` to `hi` with a
first digit above `mark` and so many digits of base 64 after it. -/
def byteRanges (mark : Nat) : Nat → Nat → Nat → List ByteRanges
  | 0, lo, hi => [[(mark + lo, mark + hi)]]
  | n + 1, lo, hi =>
    let block := 64 ^ (n + 1)
    let split := (lo + block - 1) / block
    let next := (hi + 1) / block
    let under (digit lo hi : Nat) : List ByteRanges :=
      (byteRanges 128 n lo hi).map ((mark + digit, mark + digit) :: ·)
    if lo / block = hi / block ∧ (lo % block ≠ 0 ∨ hi % block ≠ block - 1) then
      under (lo / block) (lo % block) (hi % block)
    else
      (if lo % block ≠ 0 then under (lo / block) (lo % block) (block - 1) else []) ++
      (if split < next then
        [(mark + split, mark + (next - 1)) :: List.replicate (n + 1) (128, 191)] else []) ++
      (if (hi + 1) % block ≠ 0 then under (hi / block) 0 (hi % block) else [])

def encodings (set : CharSet) : List ByteRanges :=
  set.flatMap fun (lo, hi) =>
    let part (mark more first last : Nat) : List ByteRanges :=
      if max lo first ≤ min hi last then byteRanges mark more (max lo first) (min hi last) else []
    part 0 0 0 0x7F ++ part 192 1 0x80 0x7FF ++ part 224 2 0x800 0xFFFF ++
      part 240 3 0x10000 0x10FFFF

/-- How many ranges of a list are not at the beginning of the previous one too. -/
def newRanges : ByteRanges → ByteRanges → Nat
  | a :: before, b :: ranges => if a = b then newRanges before ranges else ranges.length + 1
  | _, ranges => ranges.length

/-- States for a list of encodings, where equal beginnings are shared. -/
def sharedStates (before : ByteRanges) : List ByteRanges → Nat
  | [] => 0
  | ranges :: rest => newRanges before ranges + sharedStates ranges rest

def stateCost : Nat := 32

/-- Bytes for a set: two states and the ranges inside ASCII, and a branch for
each encoding otherwise. -/
def cost (set : CharSet) : Nat :=
  if set.isAscii then
    if set.all fun (lo, hi) => lo == hi && set.length == 1 then stateCost
    else 2 * stateCost + 8 * set.length
  else
    let branches := encodings set
    2 * stateCost + 4 * branches.length + stateCost * sharedStates [] branches

end CharSet

namespace Expr

def cost : Expr → Nat
  | empty => CharSet.stateCost
  | chars set => set.cost
  | look _ => CharSet.stateCost
  | around _ _ body => body.cost
  | seq first second => first.cost + second.cost
  | alt left right => left.cost + right.cost + CharSet.stateCost
  | repeated least most body =>
    match most with
    | none => max 1 least * body.cost + CharSet.stateCost
    | some most => least * body.cost + (most - least) * (body.cost + CharSet.stateCost + 8)

def maxCost : Nat := 10 * 2 ^ 20

end Expr
end Rulebook
