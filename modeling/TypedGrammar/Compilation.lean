import TypedGrammar.Builder.Synthesis
import TypedGrammar.Source.Parser

/-!
# Compilation

From grammar source to everything derived from it. The first error in the source ends it; errors of
the analysis come together.
-/

namespace TypedGrammar

/-- A grammar's analysis, types and builders. -/
structure Compilation where
  analysis : Analysis
  model : TypeModel
  protocols : List Protocol

/-- Why source cannot be compiled. -/
inductive CompileError where
  | parse (error : ParseError)
  | analysis (error : AnalysisError)

def CompileError.message : CompileError → String
  | .parse error => String.join ["parse grammar: ", error.message]
  | .analysis error => error.message

namespace Compilation

/-- Everything derived from an analyzed grammar. -/
def ofAnalysis (a : Analysis) : Compilation :=
  let model := a.grammar.typeModel
  ⟨a, model, synthesize a model⟩

/-- Compiles grammar source, starting from the rule `start` or from the first. -/
def ofSource (d : Dialect) (start : Option Name) (source : List Char) :
    Except CompileError Compilation := do
  let g ← (Grammar.parse d source).mapError .parse
  let a ← (g.analyze start).mapError .analysis
  return ofAnalysis a

/-- The rule of the name that the text writes. -/
def rule? (c : Compilation) (text : List Char) : Option RuleId :=
  (Name.ofText? text).toOption.bind c.analysis.lookup

end Compilation

end TypedGrammar
