import Rulebook.Pattern.Reader

/-!
A regular expression together with the text it was read from.
-/

namespace Rulebook

structure Pattern where
  source : String
  expr : Expr
deriving DecidableEq

namespace Pattern

def read? (source : String) : Option Pattern :=
  (Expr.read? .plain source).map fun expr => { source, expr }

/-- Read an expression in a schema that is used for validation: with ASCII digits
and words where that is enough, and with look-around otherwise. -/
def readSchema? (source : String) : Option Pattern :=
  ((Expr.read? .schema source).or (Expr.read? .lookAround source)).map fun expr => { source, expr }

def isMatch (pattern : Pattern) (text : String) : Bool := pattern.expr.isMatch text

end Pattern
end Rulebook
