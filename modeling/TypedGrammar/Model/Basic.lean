import TypedGrammar.Analysis.Basic
import TypedGrammar.Name.Fresh
import TypedGrammar.Name.Spelling

/-!
# The type model

One capability for each rule and one variant for each alternative. A variant that is nothing but a
reference holds no value of its own: the rule it refers to refines its owner, so that values of the
one serve as values of the other. A refinement that would close a cycle is left out.
-/

namespace TypedGrammar

/-- One constituent of a variant. -/
inductive Term where
  | rule (id : RuleId)
  | literal (text : Line)
  | empty
  deriving DecidableEq

namespace Term

/-- The rule whose values the term holds. -/
def rule? : Term → Option RuleId
  | .rule id => some id
  | .literal _ | .empty => none

/-- The text that the term stands for by itself. -/
def text : Term → List Char
  | .literal text => text.chars
  | .rule _ | .empty => []

/-- What the term is called within a longer name. -/
def name (ruleName : RuleId → Name) (fallback : Name) : Term → Name
  | .rule id => ruleName id
  | .literal text => .ofLiteral text.chars fallback
  | .empty => .ofLiteral [] fallback

/-- The rules whose values the terms hold, in order. -/
def rules (terms : List Term) : List RuleId :=
  terms.filterMap rule?

/-- The name that these terms give to the variant of `owner` that consists of them. -/
def variantName (ruleName : RuleId → Name) (owner : Name) (terms : List Term) : Name :=
  match terms with
  | [.rule id] => ruleName id
  | terms =>
    if rules terms = [] then .ofLiteral (terms.flatMap text) owner
    else .join (terms.map (name ruleName owner)) owner

end Term

/-- One way to make a value of a rule. -/
structure Variant where
  name : Name
  terms : List Term
  /-- The rule that refines the owner through this variant. -/
  refines : Option RuleId
  deriving DecidableEq

namespace Variant

/-- The rules whose values the variant holds, in order. -/
def ruleTerms (v : Variant) : List RuleId :=
  Term.rules v.terms

/-- Whether the variant holds no values of rules. -/
def isTerminal (v : Variant) : Bool :=
  v.ruleTerms = []

/-- The text of a terminal variant. -/
def text? (v : Variant) : Option (List Char) :=
  if v.isTerminal then some (v.terms.flatMap Term.text) else none

end Variant

/-- The type of the values of one rule. -/
structure Capability where
  rule : RuleId
  name : Name
  variants : List Variant
  deriving DecidableEq

/-- The types of a grammar. An edge of `hierarchy` leads from a rule to one that it refines. -/
structure TypeModel where
  capabilities : List Capability
  hierarchy : Digraph
  deriving DecidableEq

namespace Grammar

/-- The term for a part; a reference without a rule has none. -/
def term? (g : Grammar) : Part → Option Term
  | .literal text => some (.literal text)
  | .reference name => (g.find? name).map .rule
  | .epsilon => some .empty

def terms (g : Grammar) (a : Alternative) : List Term :=
  a.filterMap g.term?

/-- The rule that the alternative consists of. -/
def bareReference? (g : Grammar) (a : Alternative) : Option RuleId :=
  match g.terms a with
  | [.rule id] => some id
  | _ => none

end Grammar

/-- The graph with these refinements among `size` rules. -/
def Digraph.ofRefinements (size : Nat) (edges : List (RuleId × RuleId)) : Digraph :=
  .ofEdges size fun sub sup => edges.contains (sub, sup)

namespace Grammar

/-- The rule that comes to refine `owner` through the alternative, after these refinements: the one
that the alternative consists of, unless that is `owner` itself or a rule that `owner` refines. -/
def refining? (g : Grammar) (refinements : List (RuleId × RuleId)) (owner : RuleId)
    (a : Alternative) : Option RuleId :=
  (g.bareReference? a).filter fun sub =>
    sub ≠ owner && !(Digraph.ofRefinements g.size refinements).reaches owner sub

/-- The variants of a rule for these alternatives, and the refinements after them. The names in
`taken` are those of the variants before, and `refinements` those of all alternatives before. -/
def variants (g : Grammar) (owner : RuleId) (ownerName : Name) (taken : NameSet)
    (refinements : List (RuleId × RuleId)) :
    List Alternative → List Variant × List (RuleId × RuleId)
  | [] => ([], refinements)
  | a :: alternatives =>
    let terms := g.terms a
    let (name, taken) :=
      taken.claim (Term.variantName (fun id => (g.rule id).name) ownerName terms)
    let refines := g.refining? refinements owner a
    let (others, refinements) := g.variants owner ownerName taken
      (refinements ++ (refines.map fun sub => (sub, owner)).toList) alternatives
    (⟨name, terms, refines⟩ :: others, refinements)

/-- The capabilities of these rules, and the refinements after them. -/
def capabilities (g : Grammar) (refinements : List (RuleId × RuleId)) :
    List (Rule × RuleId) → List Capability × List (RuleId × RuleId)
  | [] => ([], refinements)
  | (r, id) :: rules =>
    let (variants, refinements) := g.variants id r.name .empty refinements r.alternatives
    let (others, refinements) := g.capabilities refinements rules
    (⟨id, r.name, variants⟩ :: others, refinements)

def typeModel (g : Grammar) : TypeModel :=
  let (capabilities, refinements) := g.capabilities [] g.rules.zipIdx
  ⟨capabilities, .ofRefinements g.size refinements⟩

end Grammar

namespace TypeModel

def variants (m : TypeModel) (id : RuleId) : List Variant :=
  (m.capabilities[id]?.map (·.variants)).getD []

def terms (m : TypeModel) (id : RuleId) (variant : Nat) : List Term :=
  ((m.variants id)[variant]?.map (·.terms)).getD []

/-- The rules that `id` refines directly. -/
def supertypes (m : TypeModel) (id : RuleId) : List RuleId :=
  m.hierarchy.successors id

/-- All direct refinements, as pairs of the refining and the refined rule, ascending. -/
def refinements (m : TypeModel) : List (RuleId × RuleId) :=
  (List.range m.hierarchy.size).flatMap fun sub => (m.supertypes sub).map fun sup => (sub, sup)

/-- Whether `sub` is `sup` or refines it in one step or more. -/
def isSubtype (m : TypeModel) (sub sup : RuleId) : Bool :=
  m.hierarchy.reaches sub sup

end TypeModel

end TypedGrammar
