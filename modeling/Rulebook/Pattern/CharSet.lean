import Rulebook.Unicode.Folding
import Rulebook.Unicode.Packed

/-!
Sets of characters as ranges of code points, in increasing order and with gaps
between them. Surrogates never belong to a set.
-/

namespace Rulebook

abbrev CharSet := List (Nat × Nat)

namespace CharSet

def contains (set : CharSet) (c : Char) : Bool :=
  set.any fun (lo, hi) => lo ≤ c.toNat && c.toNat ≤ hi

def ofChar (c : Char) : CharSet := [(c.toNat, c.toNat)]

def anyChar : CharSet := [(0, 0xD7FF), (0xE000, 0x10FFFF)]

/-- Add a range, joined with those that it touches. -/
def insertRange (lo hi : Nat) : CharSet → CharSet
  | [] => [(lo, hi)]
  | (a, b) :: rest =>
    if hi + 1 < a then (lo, hi) :: (a, b) :: rest
    else if b + 1 < lo then (a, b) :: insertRange lo hi rest
    else insertRange (min lo a) (max hi b) rest

def ofRanges (ranges : List (Nat × Nat)) : CharSet :=
  ranges.foldr (fun (lo, hi) set => insertRange lo hi set) []

def union (a b : CharSet) : CharSet := ofRanges (a ++ b)

/-- The ranges between those of a set, from a position up to the last code point. -/
def gapsFrom (position : Nat) : CharSet → CharSet
  | [] => if position ≤ 0x10FFFF then [(position, 0x10FFFF)] else []
  | (lo, hi) :: rest =>
    if position < lo then (position, lo - 1) :: gapsFrom (hi + 1) rest else gapsFrom (hi + 1) rest

def complement (set : CharSet) : CharSet := gapsFrom 0 (union set [(0xD800, 0xDFFF)])

def inter (a b : CharSet) : CharSet := complement (union (complement a) (complement b))

def diff (a b : CharSet) : CharSet := inter a (complement b)

def symmDiff (a b : CharSet) : CharSet := union (diff a b) (diff b a)

def isAscii (set : CharSet) : Bool := set.all fun (_, hi) => hi < 128

/-! ### Case -/

def offsets (start : Nat) : List Nat → List Nat
  | [] => [start]
  | d :: rest => start :: offsets (start + d) rest

/-- Groups of characters that are equal but for their case. -/
def foldGroupsFrom : Nat → Nat → List Nat → List (List Nat)
  | rounds + 1, position, gap :: extra :: rest =>
    offsets (position + gap) (rest.take (extra + 1)) ::
      foldGroupsFrom rounds (position + gap) (rest.drop (extra + 1))
  | _, _, _ => []

def foldGroups : List (List Nat) :=
  let numbers := Unicode.unpack Unicode.foldGroups
  foldGroupsFrom numbers.length 0 numbers

/-- A set with every character that differs from one of its own by case only. -/
def foldCase (set : CharSet) : CharSet :=
  let member (n : Nat) : Bool := set.any fun (lo, hi) => lo ≤ n && n ≤ hi
  let added := foldGroups.filter (·.any member)
  ofRanges (set ++ added.flatten.map fun n => (n, n))

def foldAsciiCase (set : CharSet) : CharSet :=
  let letters := (List.range 26).filter fun i =>
    set.any fun (lo, hi) => (lo ≤ 65 + i && 65 + i ≤ hi) || (lo ≤ 97 + i && 97 + i ≤ hi)
  ofRanges (set ++ letters.flatMap fun i => [(65 + i, 65 + i), (97 + i, 97 + i)])

end CharSet
end Rulebook
