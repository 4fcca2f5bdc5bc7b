import Rulebook.Pattern.Named
import Rulebook.Text.Composed
import Rulebook.Unicode.Mapping
import Rulebook.Url.Basic
import Rulebook.Url.Punycode

/-!
The ASCII form of a domain name. Characters are mapped and composed first; then
labels with other characters than those of ASCII are encoded.
-/

namespace Rulebook
namespace Url
namespace Domain

def forbidden (c : Char) : Bool := c.toNat ≤ 32 || c.toNat = 127 || "%#/:<>?@[\\]^|".contains c

/-! ### Mapping -/

/-- A run of characters that are mapped alike: every character, or every other
one, at the same distance from its target. -/
structure MappingRun where
  first : Nat
  stride : Nat
  count : Nat
  targets : List Nat

/-- The runs that a packed table spells; each takes at least one round. -/
def runsFrom : Nat → Nat → List Nat → List MappingRun
  | rounds + 1, position, gap :: shape :: more :: rest =>
    let first := position + gap
    { first
      stride := shape % 2 + 1
      count := shape / 2 + 1
      targets := (rest.take (more + 1)).map (Composed.unfold first) } ::
      runsFrom rounds first (rest.drop (more + 1))
  | _, _, _ => []

def runs : List MappingRun :=
  let numbers := Unicode.unpack Unicode.mappings
  runsFrom numbers.length 0 numbers

def MappingRun.contains (run : MappingRun) (n : Nat) : Bool :=
  run.first ≤ n && (n - run.first) % run.stride == 0 && (n - run.first) / run.stride < run.count

def inRanges (ranges : List (Nat × Nat)) (n : Nat) : Bool :=
  ranges.any fun (lo, hi) => lo ≤ n && n ≤ hi

def disallowed : List (Nat × Nat) := Unicode.ranges Unicode.disallowed

def ignored : List (Nat × Nat) := Unicode.ranges Unicode.ignored

def mapChar (n : Nat) : Option (List Nat) :=
  match runs.find? (·.contains n) with
  | some run => some (run.targets.map (· + (n - run.first)))
  | none =>
    if inRanges ignored n then some []
    else if inRanges disallowed n then none
    else some [n]

/-! ### Labels -/

def labels : List Nat → List (List Nat)
  | [] => [[]]
  | n :: rest =>
    match labels rest with
    | label :: more => if n = 46 then [] :: label :: more else (n :: label) :: more
    | [] => []

def isMark (n : Nat) : Bool := inRanges ((CharSet.category? "m").getD []) n

/-- The class of the marks that join letters; a joiner stands after one. -/
def joiningClass : Nat := 9

/-- Whether a label may be encoded: it does not begin with a mark, and joiners
stand where they join something. -/
def isProper (label : List Nat) : Bool :=
  !(label.head?.any isMark) &&
    (label.zip (label.drop 1)).all (fun (before, n) =>
      !(n == 0x200C || n == 0x200D) || Composed.markClass before == joiningClass) &&
    !(label.head?.any fun n => n == 0x200C || n == 0x200D)

def encodedMark : List Char := ['x', 'n', '-', '-']

/-- Whether a label that is encoded already has the only possible encoding. -/
def isWellEncoded (code : List Char) : Bool :=
  match Punycode.decode? code with
  | none => false
  | some label =>
    label.any (128 ≤ ·) && label.all (fun n => mapChar n == some [n]) &&
      Composed.normalize label == label && isProper label && Punycode.encode label == code

def encodeLabel (label : List Nat) : Option (List Char) :=
  if label.all (· < 128) then
    let text := label.map Char.ofNat
    if encodedMark.isPrefixOf text then
      if isWellEncoded (text.drop encodedMark.length) then some text else none
    else some text
  else if isProper label && !encodedMark.isPrefixOf (label.map Char.ofNat) then
    some (encodedMark ++ Punycode.encode label)
  else none

def toAscii (bytes : List UInt8) : Except UrlFault String :=
  let ascii? : Option (List Char) := do
    let s ← String.fromUTF8? ⟨bytes.toArray⟩
    let mapped ← s.toList.mapM fun c => mapChar c.toNat
    let encoded ← (labels (Composed.normalize mapped.flatten)).mapM encodeLabel
    let ascii := ['.'].intercalate encoded
    if ascii.any forbidden then none else some ascii
  match ascii? with
  | some ascii => .ok (String.ofList ascii)
  | none => .error .invalidDomain

end Domain
end Url
end Rulebook
