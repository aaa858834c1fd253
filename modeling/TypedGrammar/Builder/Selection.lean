import TypedGrammar.Model.Basic

/-!
# Selections

A `Selection` chooses a variant of a rule and says how each of its terms is filled.
`enumerate?` lists all values of a rule that has only a few, as selections that leave nothing open.
-/

namespace TypedGrammar

/-- How one term of a selected variant is filled. -/
inductive Fill where
  /-- By the value built so far. -/
  | previous
  | literal (text : Line)
  | empty
  /-- By a value of this rule, which the caller supplies. -/
  | argument (rule : RuleId)
  /-- By a selection of this variant, filled in turn. -/
  | fixed (rule : RuleId) (variant : Nat) (fills : List Fill)

/-- A variant of a rule with one fill for each of its terms. -/
structure Selection where
  rule : RuleId
  variant : Nat
  fills : List Fill

def Selection.fill (s : Selection) : Fill :=
  .fixed s.rule s.variant s.fills

/-- The rule whose value the caller supplies. -/
def Fill.argument? : Fill → Option RuleId
  | .argument rule => some rule
  | _ => none

/-- The rules whose values the caller supplies, in order. -/
def Selection.arguments (s : Selection) : List RuleId :=
  s.fills.filterMap Fill.argument?

/-- The fill that leaves a rule's value to the caller. -/
def Term.fill : Term → Fill
  | .rule id => .argument id
  | .literal text => .literal text
  | .empty => .empty

structure NamedSelection where
  name : Name
  selection : Selection

/-- The most values a rule may have to be enumerated. -/
def maxValues : Nat := 32

namespace Variant

/-- All values of the variant at `index` of `rule`, if it is terminal or holds one value of a rule
whose values `inner` lists. -/
def enumerate? (inner : RuleId → Option (List NamedSelection)) (rule : RuleId) (index : Nat)
    (v : Variant) : Option (List NamedSelection) :=
  match v.terms with
  | [.rule sub] =>
    (inner sub).map fun values => values.map fun value =>
      ⟨value.name, rule, index, [value.selection.fill]⟩
  | terms => if v.isTerminal then some [⟨v.name, rule, index, terms.map Term.fill⟩] else none

end Variant

/-- All values of the rule, looking through at most `depth` rules: of a flat rule whose variants can
all be enumerated, when they are not too many. -/
def enumerateWithin (a : Analysis) (m : TypeModel) : Nat → RuleId → Option (List NamedSelection)
  | 0, _ => none
  | depth + 1, rule =>
    if a.shape rule = .flat then do
      let values ← (m.variants rule).zipIdx.mapM fun (v, index) =>
        v.enumerate? (enumerateWithin a m depth) rule index
      if values.flatten.length ≤ maxValues then some values.flatten else none
    else
      none

/-- All values of the rule, if it can be enumerated. Flat rules do not come back to themselves, so
no chain of them is longer than the grammar. -/
def enumerate? (a : Analysis) (m : TypeModel) (rule : RuleId) : Option (List NamedSelection) :=
  enumerateWithin a m a.grammar.size rule

end TypedGrammar
