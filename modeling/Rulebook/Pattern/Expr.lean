import Rulebook.Pattern.CharSet

/-!
Regular expressions and what they match. A match runs between two positions of
a text; the matcher computes all its ends at once from all its starts, so that
no choice has to be taken back.
-/

namespace Rulebook

inductive WordSide where
  | boundary | inside | start | finish | startHalf | finishHalf
deriving DecidableEq

inductive Look where
  | textStart
  | textEnd
  /-- At the start of a line; lines may also end with a carriage return. -/
  | lineStart (crlf : Bool)
  | lineEnd (crlf : Bool)
  /-- Beside a character of `word`. -/
  | word (side : WordSide) (word : CharSet)
deriving DecidableEq

inductive Expr where
  | empty
  | chars (set : CharSet)
  | look (condition : Look)
  /-- Where a match of `body` begins, or else ends; or where none does. -/
  | around (ahead negated : Bool) (body : Expr)
  | seq (first second : Expr)
  | alt (left right : Expr)
  /-- At least `least` times, and at most `most` times if there is a limit. -/
  | repeated (least : Nat) (most : Option Nat) (body : Expr)
deriving DecidableEq

namespace Look

def holds : Look → Option Char → Option Char → Bool
  | textStart, before, _ => before.isNone
  | textEnd, _, after => after.isNone
  | lineStart false, before, _ => before.all (· == '\n')
  | lineEnd false, _, after => after.all (· == '\n')
  | lineStart true, before, after =>
    before.all (· == '\n') || (before == some '\r' && after != some '\n')
  | lineEnd true, before, after =>
    after.all (· == '\r') || (after == some '\n' && before != some '\r')
  | word side set, before, after =>
    let left := before.any set.contains
    let right := after.any set.contains
    match side with
    | .boundary => left != right
    | .inside => left == right
    | .start => !left && right
    | .finish => left && !right
    | .startHalf => !left
    | .finishHalf => !right

def holdsAt (condition : Look) (text : Array Char) (i : Nat) : Bool :=
  condition.holds (if i = 0 then none else text[i - 1]?) text[i]?

end Look

namespace Expr

def mergePositions : List Nat → List Nat → List Nat
  | [], b => b
  | a, [] => a
  | x :: a, y :: b =>
    if x < y then x :: mergePositions a (y :: b)
    else if y < x then y :: mergePositions (x :: a) b
    else x :: mergePositions a b

def times (step : List Nat → List Nat) : Nat → List Nat → List Nat
  | 0, positions => positions
  | n + 1, positions => if positions.isEmpty then [] else times step n (step positions)

/-- Apply a step any number of times up to a limit, and stop when nothing new
comes of it. -/
def upTo (step : List Nat → List Nat) : Nat → List Nat → List Nat
  | 0, positions => positions
  | n + 1, positions =>
    let more := mergePositions positions (step positions)
    if more.length = positions.length then positions else upTo step n more

/-- The ends of the matches that start at given positions. A text of `n`
characters has `n + 1` positions, so that many rounds of an unlimited
repetition find them all. -/
def ends (text : Array Char) : Expr → List Nat → List Nat
  | empty, starts => starts
  | chars set, starts =>
    starts.filterMap fun i => if text[i]?.any set.contains then some (i + 1) else none
  | look condition, starts => starts.filter fun i => condition.holdsAt text i
  | around true negated body, starts =>
    starts.filter fun i => (ends text body [i]).isEmpty == negated
  | around false negated body, starts =>
    starts.filter fun i => (ends text body (List.range (i + 1))).contains i != negated
  | seq first second, starts => ends text second (ends text first starts)
  | alt left right, starts => mergePositions (ends text left starts) (ends text right starts)
  | repeated least most body, starts =>
    let step := ends text body
    upTo step (most.elim (text.size + 1) (· - least)) (times step least starts)

/-- Whether the expression matches anywhere in a text. -/
def isMatch (e : Expr) (text : String) : Bool :=
  let chars := text.toList.toArray
  !(e.ends chars (List.range (chars.size + 1))).isEmpty

end Expr
end Rulebook
