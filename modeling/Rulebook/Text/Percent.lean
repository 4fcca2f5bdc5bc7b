/-!
Percent-encoding: a byte is written as a percent sign and two hexadecimal
digits. Decoding leaves a percent sign that no two digits follow as it is.
-/

namespace Rulebook
namespace Percent

def hexDigit (n : Nat) : Char := (Nat.digitChar n).toUpper

def hexValue (c : Char) : Option Nat :=
  if '0' ≤ c ∧ c ≤ '9' then some (c.toNat - 48)
  else if 'a' ≤ c ∧ c ≤ 'f' then some (c.toNat - 87)
  else if 'A' ≤ c ∧ c ≤ 'F' then some (c.toNat - 55)
  else none

def escapeByte (b : UInt8) : List Char :=
  ['%', hexDigit (b.toNat / 16), hexDigit (b.toNat % 16)]

/-- A character, or the escapes of its UTF-8 bytes when it has to be encoded. -/
def encodeChar (needed : Char → Bool) (c : Char) : List Char :=
  if needed c then (String.utf8EncodeChar c).flatMap escapeByte else [c]

def encode (needed : Char → Bool) (s : List Char) : List Char := s.flatMap (encodeChar needed)

def decodeBytes : List Char → List UInt8
  | [] => []
  | '%' :: a :: b :: rest =>
    match hexValue a, hexValue b with
    | some x, some y => UInt8.ofNat (16 * x + y) :: decodeBytes rest
    | _, _ => String.utf8EncodeChar '%' ++ decodeBytes (a :: b :: rest)
  | c :: rest => String.utf8EncodeChar c ++ decodeBytes rest

def decode? (s : String) : Option String :=
  String.fromUTF8? ⟨(decodeBytes s.toList).toArray⟩

end Percent
end Rulebook
