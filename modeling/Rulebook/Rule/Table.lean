import Rulebook.Rule.Encoding

/-!
A table of rules by key, in the order of the keys. Keys are compared by code
points, which is the order of their UTF-8 bytes.
-/

namespace Rulebook

/-- Rules by key. The keys increase. -/
structure RuleTable where
  entries : List (String × Rule) := []

namespace RuleTable

def insertEntry (key : String) (rule : Rule) : List (String × Rule) → List (String × Rule)
  | [] => [(key, rule)]
  | (k, r) :: rest =>
    if key < k then (key, rule) :: (k, r) :: rest
    else if key = k then (key, rule) :: rest
    else (k, r) :: insertEntry key rule rest

def insert (table : RuleTable) (key : String) (rule : Rule) : RuleTable :=
  ⟨insertEntry key rule table.entries⟩

def get? (table : RuleTable) (key : String) : Option Rule :=
  (table.entries.find? (·.1 = key)).map Prod.snd

def toJson (table : RuleTable) : Json :=
  .object (table.entries.map fun (key, rule) => (key, rule.toJson))

end RuleTable
end Rulebook
