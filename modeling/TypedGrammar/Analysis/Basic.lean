import TypedGrammar.Analysis.Closure
import TypedGrammar.Analysis.Productivity
import TypedGrammar.Analysis.Recursion

/-!
# Analysis of grammars

`Grammar.analyze` checks that a grammar is closed and that its rules are productive, and summarizes
each rule: the recursion of its alternatives, its shape, and whether the start rule leads to it.
-/

namespace TypedGrammar

structure RuleSummary where
  /-- One class for each alternative, in order. -/
  recursion : List Recursion
  shape : Shape
  /-- Whether the start rule leads here. -/
  reachable : Bool
  deriving DecidableEq

/-- A finding that stops nothing: the start rule does not lead to `rule`. -/
structure Warning where
  rule : Name
  start : Name
  deriving DecidableEq

def Warning.message (w : Warning) : String :=
  String.join ["rule <", w.rule.text, "> is unreachable from start rule <", w.start.text, ">"]

/-- A grammar with what is known of its rules. -/
structure Analysis where
  grammar : Grammar
  index : NameIndex
  start : RuleId
  graph : Digraph
  summaries : List RuleSummary

namespace Grammar

def summarize (g : Grammar) (graphs : ReferenceGraphs) (reachable : List RuleId) (r : Rule)
    (id : RuleId) : RuleSummary :=
  let recursion := r.alternatives.map (g.classify graphs id)
  ⟨recursion, g.shapeOf id (r.alternatives.zip recursion), reachable.contains id⟩

/-- The analysis of a grammar that is known to be closed and productive. -/
def analysis (g : Grammar) (start : RuleId) : Analysis :=
  let graphs := g.referenceGraphs
  let reachable := graphs.all.reachableFrom start
  { grammar := g
    index := g.index
    start := start
    graph := graphs.all
    summaries := g.rules.zipIdx.map fun (r, id) => g.summarize graphs reachable r id }

/-- Analyzes the grammar from the start rule of this name, or from its first rule. -/
def analyze (g : Grammar) (start : Option Name) : Except AnalysisError Analysis :=
  if g.closureErrors start ≠ [] then .error ⟨g.closureErrors start⟩
  else if g.productivityErrors ≠ [] then .error ⟨g.productivityErrors⟩
  else .ok (g.analysis (g.startRule start))

end Grammar

namespace Analysis

def ruleIds (a : Analysis) : List RuleId :=
  List.range a.grammar.size

def lookup (a : Analysis) (name : Name) : Option RuleId :=
  a.index.lookup name

def ruleName (a : Analysis) (id : RuleId) : Name :=
  (a.grammar.rule id).name

def shape (a : Analysis) (id : RuleId) : Shape :=
  (a.summaries[id]?.map (·.shape)).getD .general

def recursion (a : Analysis) (id : RuleId) : List Recursion :=
  (a.summaries[id]?.map (·.recursion)).getD []

/-- Whether `b` is `a` or follows from it along references. -/
def reaches (analysis : Analysis) (a b : RuleId) : Bool :=
  analysis.graph.reaches a b

/-- One warning for each rule that the start rule does not lead to, in order. -/
def warnings (a : Analysis) : List Warning :=
  (a.grammar.rules.zip a.summaries).filterMap fun (r, summary) =>
    if summary.reachable then none else some ⟨r.name, a.ruleName a.start⟩

end Analysis

end TypedGrammar
