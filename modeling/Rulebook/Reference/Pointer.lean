import Rulebook.Error
import Rulebook.Json.Path
import Rulebook.Text.Percent

/-!
JSON pointers. A segment is percent-decoded first; then `~1` stands for a
slash and `~0` for a tilde.
-/

namespace Rulebook
namespace Pointer

def unescape (digit replacement : Char) : List Char → List Char
  | [] => []
  | [c] => [c]
  | c :: d :: rest =>
    if c = '~' ∧ d = digit then replacement :: unescape digit replacement rest
    else c :: unescape digit replacement (d :: rest)

/-- The key that an escaped segment names: slashes first, so that `~01` is a
tilde and a one. -/
def unescapeSegment (s : String) : String :=
  String.ofList (unescape '0' '~' (unescape '1' '/' s.toList))

def decodeSegment (s : String) : Option String := (Percent.decode? s).map unescapeSegment

def splitSlashes : List Char → List (List Char)
  | [] => [[]]
  | c :: rest =>
    match splitSlashes rest with
    | part :: parts => if c = '/' then [] :: part :: parts else (c :: part) :: parts
    | [] => []

theorem splitSlashes_ne_nil (text : List Char) : splitSlashes text ≠ [] := by
  induction text with
  | nil => simp [splitSlashes]
  | cons c rest ih =>
    unfold splitSlashes
    split
    · split <;> simp
    · contradiction

def follow (pointer : String) : List (List Char) → Json → Except ResolveError Json
  | [], v => .ok v
  | raw :: rest, v =>
    match decodeSegment (String.ofList raw) with
    | none => .error (.unsupported pointer (.badEncoding (String.ofList raw)))
    | some segment =>
      match v.child? segment with
      | some w => follow pointer rest w
      | none => .error (.pointerNotFound pointer segment)

/-- The value that a pointer names. It may begin with a hash sign. -/
def resolve (root : Json) (pointer : String) : Except ResolveError Json :=
  let path := match pointer.toList with
    | '#' :: path => path
    | path => path
  match path with
  | [] => .ok root
  | '/' :: segments => follow pointer (splitSlashes segments) root
  | _ => .error (.unsupported pointer .notPointer)

end Pointer
end Rulebook
