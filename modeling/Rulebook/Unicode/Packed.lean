/-!
The packed form of tables of numbers: base 26, with capital letters for the
leading digits of a number and a small letter for its last one.
-/

namespace Rulebook
namespace Unicode

/-- The numbers that packed letters spell; `acc` holds the digits so far. -/
def unpackFrom (acc : Nat) : List Char → List Nat
  | [] => []
  | c :: rest =>
    if c.isUpper then unpackFrom (acc * 26 + (c.toNat - 65)) rest
    else (acc * 26 + (c.toNat - 97)) :: unpackFrom 0 rest

def unpack (lines : List String) : List Nat := unpackFrom 0 (lines.flatMap String.toList)

/-- Ranges from the gaps before them and their lengths less one. -/
def rangesFrom (position : Nat) : List Nat → List (Nat × Nat)
  | gap :: length :: rest =>
    (position + gap, position + gap + length) :: rangesFrom (position + gap + length + 1) rest
  | _ => []

def ranges (lines : List String) : List (Nat × Nat) := rangesFrom 0 (unpack lines)

def find? (name : String) (table : List (List String × List String)) :
    Option (List (Nat × Nat)) :=
  (table.find? fun entry => entry.1.contains name).map fun entry => ranges entry.2

end Unicode
end Rulebook
