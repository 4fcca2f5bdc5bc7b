import Rulebook.Rule.Basic

/-!
The expressions behind the formats that a rule checks.
-/

namespace Rulebook
namespace Formats

/-- A label of a host name: letters, digits and inner hyphens, at most 63. -/
def label : String := "[a-zA-Z0-9](?:[a-zA-Z0-9-]\x7b0,61\x7d[a-zA-Z0-9])?"

def emailSource : String :=
  "^[a-zA-Z0-9.!#$%&'*+/=?^_`\x7b|\x7d~-]+@" ++ label ++ "(?:\\." ++ label ++ ")*$"

def hostnameSource : String := "^(?:" ++ label ++ "\\.)*" ++ label ++ "$"

/-- A number from 0 to 255 without leading zeros. -/
def byte : String := "(?:25[0-5]|2[0-4][0-9]|1[0-9]\x7b2\x7d|[1-9]?[0-9])"

def ipv4Source : String := "^(?:" ++ byte ++ "\\.)\x7b3\x7d" ++ byte ++ "$"

def piece : String := "[0-9A-Fa-f]\x7b1,4\x7d"

/-- Between one and `most` pieces, each before its colon. -/
def piecesBefore (most : String) : String := "(?:" ++ piece ++ ":)\x7b1," ++ most ++ "\x7d"

def piecesAfter (most : String) : String := "(?::" ++ piece ++ ")\x7b1," ++ most ++ "\x7d"

def ipv6Source : String :=
  "^(?:(?:" ++ piece ++ ":)\x7b7\x7d" ++ piece ++ "|" ++
  piecesBefore "7" ++ ":|" ++
  piecesBefore "6" ++ ":" ++ piece ++ "|" ++
  piecesBefore "5" ++ piecesAfter "2" ++ "|" ++
  piecesBefore "4" ++ piecesAfter "3" ++ "|" ++
  piecesBefore "3" ++ piecesAfter "4" ++ "|" ++
  piecesBefore "2" ++ piecesAfter "5" ++ "|" ++
  piece ++ ":" ++ piecesAfter "6" ++ "|" ++
  ":(?:" ++ piecesAfter "7" ++ "|:))$"

def kind? (format : Option String) : Option PatternKind :=
  match format with
  | some "email" => some .email
  | some "host-name" | some "hostname" => some .hostname
  | some "ipv4" => some .ipv4
  | some "ipv6" => some .ipv6
  | _ => none

def source : PatternKind → String
  | .email => emailSource
  | .hostname => hostnameSource
  | .ipv4 => ipv4Source
  | .ipv6 => ipv6Source
  | .pattern => ""

def rulePattern? (kind : PatternKind) : Option RulePattern :=
  (Pattern.read? (source kind)).map fun pattern => { kind, pattern }

end Formats
end Rulebook
