import Rulebook.Pattern.CharSet
import Rulebook.Unicode.Category
import Rulebook.Unicode.Property
import Rulebook.Unicode.Script
import Rulebook.Unicode.ScriptExtension

/-!
Sets of characters that have a name: digits, blanks and word characters, the
classes of ASCII, and the categories, scripts and properties of Unicode.
-/

namespace Rulebook
namespace CharSet

/-- The form in which names are compared: case, blanks, hyphens, underscores
and a leading `is` do not count, except that of `isc`. -/
def normalName (s : String) : String :=
  let letters := s.toList.filter fun c => c.toNat < 128 && !(c == ' ' || c == '_' || c == '-')
  let plain := letters.map Char.toLower
  let marked := (s.toList.take 2).map Char.toLower == ['i', 's']
  let name := if marked then plain.drop 2 else plain
  if marked ∧ name = ['c'] then "isc" else String.ofList name

def unionAll (sets : List CharSet) : CharSet := ofRanges sets.flatten

def categoryGroups : List (List String × List String) :=
  [(["l", "letter"], ["ll", "lm", "lo", "lt", "lu"]),
   (["lc", "casedletter"], ["ll", "lt", "lu"]),
   (["m", "mark", "combiningmark"], ["mc", "me", "mn"]),
   (["n", "number"], ["nd", "nl", "no"]),
   (["p", "punctuation", "punct"], ["pc", "pd", "pe", "pf", "pi", "po", "ps"]),
   (["s", "symbol"], ["sc", "sk", "sm", "so"]),
   (["z", "separator"], ["zl", "zp", "zs"])]

def simpleCategory? (name : String) : Option CharSet :=
  (Unicode.find? name Unicode.categories).map ofRanges

/-- Code points to which a category other than `unassigned` is given. -/
def assigned : CharSet :=
  ofRanges (Unicode.categories.flatMap fun entry => Unicode.ranges entry.2)

def category? (name : String) : Option CharSet :=
  if name = "any" then some anyChar
  else if name = "ascii" then some [(0, 127)]
  else if name = "assigned" then some assigned
  else if name = "cn" ∨ name = "unassigned" then some (complement assigned)
  else if name = "c" ∨ name = "other" then
    some (union (complement assigned) (unionAll (["cc", "cf", "co"].filterMap simpleCategory?)))
  else
    match categoryGroups.find? (·.1.contains name) with
    | some (_, parts) => some (unionAll (parts.filterMap simpleCategory?))
    | none => simpleCategory? name

def script? (name : String) : Option CharSet :=
  (Unicode.find? name Unicode.scripts).map ofRanges

def scriptExtension? (name : String) : Option CharSet :=
  (Unicode.find? name Unicode.scriptExtensions).map ofRanges

def property? (name : String) : Option CharSet :=
  (Unicode.find? name Unicode.properties).map ofRanges

/-- The set that a single name means: a property, a category or a script. Some
short names of properties are left to the categories. -/
def named? (name : String) : Option CharSet :=
  let name := normalName name
  let property := if ["cf", "sc", "lc"].contains name then none else property? name
  property.or ((category? name).or (script? name))

def valued? (property value : String) : Option CharSet :=
  let value := normalName value
  match normalName property with
  | "gc" | "generalcategory" | "category" => category? value
  | "sc" | "script" => script? value
  | "scx" | "scriptextensions" => scriptExtension? value
  | _ => none

/-! ### Digits, blanks and words -/

def digit (unicode : Bool) : CharSet :=
  if unicode then (category? "nd").getD [] else [(48, 57)]

def space (unicode : Bool) : CharSet :=
  if unicode then (property? "wspace").getD [] else [(9, 13), (32, 32)]

def word (unicode : Bool) : CharSet :=
  if unicode then
    unionAll [(property? "alpha").getD [], (category? "m").getD [], (category? "nd").getD [],
      (category? "pc").getD [], (property? "joinc").getD []]
  else [(48, 57), (65, 90), (95, 95), (97, 122)]

def schemaSpace : CharSet :=
  [(9, 13), (32, 32), (0xA0, 0xA0), (0x2003, 0x2003), (0x2029, 0x2029), (0xFEFF, 0xFEFF)]

def asciiClass? (name : String) : Option CharSet :=
  match name with
  | "alnum" => some [(48, 57), (65, 90), (97, 122)]
  | "alpha" => some [(65, 90), (97, 122)]
  | "ascii" => some [(0, 127)]
  | "blank" => some [(9, 9), (32, 32)]
  | "cntrl" => some [(0, 31), (127, 127)]
  | "digit" => some [(48, 57)]
  | "graph" => some [(33, 126)]
  | "lower" => some [(97, 122)]
  | "print" => some [(32, 126)]
  | "punct" => some [(33, 47), (58, 64), (91, 96), (123, 126)]
  | "space" => some [(9, 13), (32, 32)]
  | "upper" => some [(65, 90)]
  | "word" => some [(48, 57), (65, 90), (95, 95), (97, 122)]
  | "xdigit" => some [(48, 57), (65, 70), (97, 102)]
  | _ => none

end CharSet
end Rulebook
