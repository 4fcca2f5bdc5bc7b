import Rulebook.Number.Power

/-!
Labels of host names in ASCII: the characters of ASCII come first, and then the
others as differences in order of their code points, written with digits whose
weights adapt to the size of the differences.
-/

namespace Rulebook
namespace Punycode

/-- The digits are the letters and then the numerals. -/
def digit (n : Nat) : Char := if n < 26 then Char.ofNat (97 + n) else Char.ofNat (22 + n)

def digitValue? (c : Char) : Option Nat :=
  if 'a' ≤ c ∧ c ≤ 'z' then some (c.toNat - 97)
  else if 'A' ≤ c ∧ c ≤ 'Z' then some (c.toNat - 65)
  else if c.isDigit then some (c.toNat - 22)
  else none

/-- The least digit that is not the last one, at a position that counts in steps
of 36. -/
def threshold (position bias : Nat) : Nat :=
  if position ≤ bias + 1 then 1 else min 26 (position - bias)

theorem threshold_pos (position bias : Nat) : 1 ≤ threshold position bias := by
  unfold threshold; split <;> omega

/-- How often a difference has to be divided until it is small, in steps of 36,
and what is left of it. -/
def shrink (delta steps : Nat) : Nat × Nat :=
  if 455 < delta then shrink (delta / 35) (steps + 36) else (delta, steps)
termination_by delta
decreasing_by omega

def adapt (delta count : Nat) (first : Bool) : Nat :=
  let delta := if first then delta / 700 else delta / 2
  let (left, steps) := shrink (delta + delta / count) 0
  steps + 36 * left / (left + 38)

/-! ### Writing -/

def digits (bias position n : Nat) : List Char :=
  let t := threshold position bias
  if n < t then [digit n]
  else digit (t + (n - t) % (36 - t)) :: digits bias (position + 36) ((n - t) / (36 - t))
termination_by n
decreasing_by
  have h₁ := threshold_pos position bias
  exact Nat.lt_of_le_of_lt (Nat.div_le_self _ _) (by omega)

structure Writer where
  output : List Char
  delta : Nat := 0
  bias : Nat := 72
  count : Nat
  /-- How many characters of ASCII there are. -/
  basic : Nat

def Writer.pass (code : Nat) (w : Writer) (n : Nat) : Writer :=
  if n < code then { w with delta := w.delta + 1 }
  else if n = code then
    { w with
      output := w.output ++ digits w.bias 36 w.delta
      delta := 0
      bias := adapt w.delta (w.count + 1) (w.count == w.basic)
      count := w.count + 1 }
  else w

/-- Place the characters with each of the codes, which increase from `next` on. -/
def Writer.place (text : List Nat) (next : Nat) (w : Writer) : List Nat → Writer
  | [] => w
  | code :: rest =>
    let w := { w with delta := w.delta + (code - next) * (w.count + 1) }
    let w := text.foldl (Writer.pass code) w
    Writer.place text (code + 1) { w with delta := w.delta + 1 } rest

def encode (text : List Nat) : List Char :=
  let basic := (text.filter (· < 128)).map Char.ofNat
  let others := (text.filter (128 ≤ ·)).mergeSort fun a b => decide (a ≤ b)
  let output := if basic.isEmpty then [] else basic ++ ['-']
  (Writer.place text 128 { output, count := basic.length, basic := basic.length }
    others.eraseDups).output

/-! ### Reading -/

def takeDifference (bias position weight n : Nat) : List Char → Option (Nat × List Char)
  | [] => none
  | c :: rest => do
    let d ← digitValue? c
    let n := n + d * weight
    if 2 ^ 32 ≤ n then none
    let t := threshold position bias
    if d < t then return (n, rest)
    else takeDifference bias (position + 36) (weight * (36 - t)) n rest

theorem length_takeDifference {bias position weight n : Nat} {s : List Char} {r : Nat × List Char}
    (h : takeDifference bias position weight n s = some r) : r.2.length < s.length := by
  induction s generalizing position weight n with
  | nil => simp [takeDifference] at h
  | cons c rest ih =>
    simp only [takeDifference, Option.bind_eq_bind, Option.bind_eq_some_iff] at h
    obtain ⟨d, _, h⟩ := h
    split at h
    · simp at h
    · simp only [Option.pure_def] at h
      split at h
      · simp only [Option.some.injEq] at h; simp [← h]
      · have := ih h; simp only [List.length_cons]; omega

/-- Insert the characters that the differences describe. The last one had the
code and stands before the place; the first place is zero. -/
def insertAll (output : List Nat) (code place bias : Nat) (digits : List Char) :
    Option (List Nat) :=
  if digits.isEmpty then some output
  else
    match h : takeDifference bias 36 1 0 digits with
    | none => none
    | some (delta, rest) =>
      let size := output.length + 1
      let newCode := code + (place + delta) / size
      let newPlace := (place + delta) % size
      if 0x10FFFF < newCode ∨ (0xD800 ≤ newCode ∧ newCode ≤ 0xDFFF) then none
      else
        insertAll (output.insertIdx newPlace newCode) newCode (newPlace + 1)
          (adapt delta size (place == 0)) rest
termination_by digits.length
decreasing_by exact length_takeDifference h

def decode? (label : List Char) : Option (List Nat) :=
  let digits := (label.reverse.takeWhile (· != '-')).reverse
  let basic := (label.take (label.length - digits.length)).dropLast
  if basic.all fun c => c.toNat < 128 then insertAll (basic.map Char.toNat) 128 0 72 digits
  else none

end Punycode
end Rulebook
