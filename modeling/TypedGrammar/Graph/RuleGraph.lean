import TypedGrammar.Grammar.Basic
import TypedGrammar.Graph.Digraph

/-!
# Graphs of rules

An edge leads from a rule to every rule that some alternative of it refers to. The corner graphs
count only the first or the last part of each alternative.
-/

namespace TypedGrammar

/-- The rules that these parts of the alternatives of `r` refer to. -/
def Rule.targets (index : Name → Option RuleId) (parts : Alternative → List Part) (r : Rule) :
    List RuleId :=
  r.alternatives.flatMap fun a => (parts a).filterMap fun part => part.reference?.bind index

/-- The graph of rules whose edges come from the chosen parts of each alternative. The index gives
the rule of a name; a name without one makes no edge. -/
def RuleGraph.ofParts (parts : Alternative → List Part) (rules : List Rule)
    (index : Name → Option RuleId) : Digraph :=
  ⟨rules.map fun r =>
    let targets := r.targets index parts
    (List.range rules.length).filter (· ∈ targets)⟩

/-- The graph of all references between rules. -/
def RuleGraph.build : List Rule → (Name → Option RuleId) → Digraph :=
  ofParts id

/-- The graph of the references that stand first in an alternative. -/
def RuleGraph.leftCorners : List Rule → (Name → Option RuleId) → Digraph :=
  ofParts (List.take 1)

/-- The graph of the references that stand last in an alternative. -/
def RuleGraph.rightCorners : List Rule → (Name → Option RuleId) → Digraph :=
  ofParts fun a => a.drop (a.length - 1)

end TypedGrammar
