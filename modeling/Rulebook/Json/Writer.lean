import Rulebook.Json.Basic
import Rulebook.Number.Shortest

/-!
The text of a JSON value, on one line or indented. Members keep their order,
text outside ASCII is written as it is, and doubles are always told apart from
integers.
-/

namespace Rulebook

/-- Doubles are plain from `0.00001` up to below `10 ^ 16`, with `.0` when
integral, and have an explicit exponent sign otherwise. -/
def Number.doubleLayout : DecimalLayout where
  plainFrom := -5
  plainTo := 15
  integral := ".0"
  exponentMark := "e"
  exponentPlus := "+"

def Number.text : Number → String
  | .integer n _ => toString n
  | .double x => x.text doubleLayout

namespace Json

def escape (c : Char) : String :=
  if c = '"' then "\\\""
  else if c = '\\' then "\\\\"
  else if c = '\n' then "\\n"
  else if c = '\r' then "\\r"
  else if c = '\t' then "\\t"
  else if c.toNat = 8 then "\\b"
  else if c.toNat = 12 then "\\f"
  else if c.toNat < 32 then
    "\\u00" ++ String.ofList [Nat.digitChar (c.toNat / 16), Nat.digitChar (c.toNat % 16)]
  else String.singleton c

def quote (s : String) : String := "\"" ++ String.join (s.toList.map escape) ++ "\""

mutual

/-- The text of a value without any blank. -/
def compact : Json → String
  | .null => "null"
  | .bool true => "true"
  | .bool false => "false"
  | .number n => n.text
  | .string s => quote s
  | .array items => "[" ++ ",".intercalate (compactItems items) ++ "]"
  | .object members => "\x7b" ++ ",".intercalate (compactMembers members) ++ "\x7d"

def compactItems : List Json → List String
  | [] => []
  | v :: rest => compact v :: compactItems rest

def compactMembers : List (String × Json) → List String
  | [] => []
  | (k, v) :: rest => (quote k ++ ":" ++ compact v) :: compactMembers rest

end

def newline (depth : Nat) : String := "\n" ++ String.ofList (List.replicate (2 * depth) ' ')

mutual

def indented (depth : Nat) : Json → String
  | .array (v :: rest) =>
    "[" ++ newline (depth + 1) ++
      ("," ++ newline (depth + 1)).intercalate (indentedItems (depth + 1) (v :: rest)) ++
      newline depth ++ "]"
  | .object (m :: rest) =>
    "\x7b" ++ newline (depth + 1) ++
      ("," ++ newline (depth + 1)).intercalate (indentedMembers (depth + 1) (m :: rest)) ++
      newline depth ++ "\x7d"
  | v => compact v

def indentedItems (depth : Nat) : List Json → List String
  | [] => []
  | v :: rest => indented depth v :: indentedItems depth rest

def indentedMembers (depth : Nat) : List (String × Json) → List String
  | [] => []
  | (k, v) :: rest => (quote k ++ ": " ++ indented depth v) :: indentedMembers depth rest

end

/-- The text of a value with one member or item a line. -/
def pretty (v : Json) : String := indented 0 v

end Json
end Rulebook
