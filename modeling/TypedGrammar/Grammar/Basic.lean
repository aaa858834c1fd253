import TypedGrammar.Name.Basic

/-!
# Grammars

A grammar is a non-empty list of rules, a rule names a definition, and a definition is a non-empty
list of alternatives. An alternative may be empty.
-/

namespace TypedGrammar

/-- One symbol of an alternative. -/
inductive Part where
  | literal (text : Line)
  | reference (name : Name)
  | epsilon
  deriving DecidableEq

/-- The name of the rule that the part refers to. -/
def Part.reference? : Part → Option Name
  | .reference name => some name
  | .literal _ | .epsilon => none

abbrev Alternative := List Part

/-- The names of the rules that the alternative refers to, in order. -/
def Alternative.references (a : Alternative) : List Name :=
  a.filterMap Part.reference?

structure Definition where
  alternatives : List Alternative
  alternatives_ne_nil : alternatives ≠ []
  deriving DecidableEq

namespace Definition

/-- The definition with these alternatives, if there are any. -/
def ofAlternatives? (alternatives : List Alternative) : Except StructureError Definition :=
  if h : alternatives = [] then .error .emptyDefinition else .ok ⟨alternatives, h⟩

def single (a : Alternative) : Definition :=
  ⟨[a], by simp⟩

/-- The definition with one more alternative in front. -/
def cons (a : Alternative) (d : Definition) : Definition :=
  ⟨a :: d.alternatives, by simp⟩

end Definition

structure Rule where
  name : Name
  definition : Definition
  deriving DecidableEq

def Rule.alternatives (r : Rule) : List Alternative :=
  r.definition.alternatives

/-- The rules of a grammar, in source order. -/
structure Grammar where
  rules : List Rule
  rules_ne_nil : rules ≠ []
  deriving DecidableEq

/-- A rule's place in its grammar, counted from zero. -/
abbrev RuleId := Nat

namespace Grammar

/-- The grammar with these rules, if there are any. -/
def ofRules? (rules : List Rule) : Except StructureError Grammar :=
  if h : rules = [] then .error .emptyGrammar else .ok ⟨rules, h⟩

def single (r : Rule) : Grammar :=
  ⟨[r], by simp⟩

/-- The grammar with one more rule in front. -/
def cons (r : Rule) (g : Grammar) : Grammar :=
  ⟨r :: g.rules, by simp⟩

def size (g : Grammar) : Nat :=
  g.rules.length

/-- The rule at this place; the first rule stands in for one that is not there. -/
def rule (g : Grammar) (id : RuleId) : Rule :=
  g.rules[id]?.getD (g.rules.head g.rules_ne_nil)

/-- The place of the first rule of this name. -/
def find? (g : Grammar) (name : Name) : Option RuleId :=
  g.rules.findIdx? (·.name = name)

end Grammar

end TypedGrammar
