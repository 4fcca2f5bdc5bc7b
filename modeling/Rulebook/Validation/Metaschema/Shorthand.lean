import Rulebook.Rule.Encoding
import Rulebook.Validation.Draft

/-!
Short forms of what schemas of schemas are made of.
-/

namespace Rulebook
namespace Metaschema

def texts (items : List String) : Json := .array (items.map .string)

def refTo (target : String) : Json := .object [("$ref", .string target)]

def typed (name : String) : Json := .object [("type", .string name)]

end Metaschema
end Rulebook
