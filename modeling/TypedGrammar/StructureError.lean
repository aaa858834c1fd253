import TypedGrammar.Text.Line

/-!
# Structure errors

What can be wrong with a name, a definition or a grammar that is put together from its parts.
-/

namespace TypedGrammar

/-- Why parts do not make up a name, a definition or a grammar. -/
inductive StructureError where
  | emptyName
  | emptyDefinition
  | emptyGrammar
  | line (error : LineError)
  deriving DecidableEq, Repr

def StructureError.message : StructureError → String
  | .emptyName => "identifier has no fragments"
  | .emptyDefinition => "definition has no alternatives"
  | .emptyGrammar => "grammar has no rules"
  | .line error => error.message

end TypedGrammar
