import TypedGrammar.Grammar.Basic

/-!
# Semantic errors

What can be wrong with a grammar that has been read: names that are not closed, and rules that
derive nothing finite. All errors of a stage are reported together.
-/

namespace TypedGrammar

/-- A rule's place as messages show it. -/
def RuleId.text (id : RuleId) : String :=
  s!"#{id}"

inductive SemanticError where
  /-- `rule` refers to a name that no rule has, in this alternative at this part. -/
  | undefinedReference (rule reference : Name) (alternative part : Nat)
  /-- The rule `duplicate` has the name of the rule `first`. -/
  | duplicateRule (name : Name) (first duplicate : RuleId)
  | unknownStart (name : Name)
  /-- No sequence of terminals derives from `rule`. -/
  | unproductiveRule (rule : Name)
  deriving DecidableEq

def SemanticError.message : SemanticError → String
  | .undefinedReference rule reference alternative _ =>
    String.join ["rule <", rule.text, "> alternative ", toString alternative,
      " refers to undefined rule <", reference.text, ">"]
  | .duplicateRule name first _ =>
    String.join ["rule <", name.text, "> is already defined as rule ", RuleId.text first]
  | .unknownStart name => String.join ["start rule <", name.text, "> is not defined"]
  | .unproductiveRule rule => String.join ["rule <", rule.text, "> cannot derive a finite sequence"]

/-- The errors that one stage of the analysis found. -/
structure AnalysisError where
  errors : List SemanticError
  deriving DecidableEq

/-- The wording of the errors, one on a line. -/
def AnalysisError.message (e : AnalysisError) : String :=
  s!"grammar has {e.errors.length} error(s)" ++
    String.join (e.errors.map fun error => "\n  " ++ error.message)

end TypedGrammar
