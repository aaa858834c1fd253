import TypedGrammar.Graph.RuleGraph

/-!
# Recursion and construction shapes

An alternative is classified by where it refers back to its rule, and a rule by how values of it
can be put together: by one choice, by growing at the end, or only from finished parts.
-/

namespace TypedGrammar

/-- Where an alternative refers back to its own rule. -/
inductive Recursion where
  | nonRecursive
  /-- In first position only. -/
  | left
  /-- In last position only. -/
  | right
  /-- Between the first and the last position only. -/
  | internal
  /-- In more than one of these ways. -/
  | mixed
  deriving DecidableEq, Repr

/-- How values of a rule are put together. -/
inductive Shape where
  /-- No alternative refers back to the rule. -/
  | flat
  /-- Alternatives without recursion begin a value, and the others extend it at the end. -/
  | leftRecursiveSequence
  /-- Anything else: values are composed of finished parts. -/
  | general
  deriving DecidableEq, Repr

def Shape.text : Shape → String
  | .flat => "flat"
  | .leftRecursiveSequence => "left recursive sequence"
  | .general => "general"

/-- Where in an alternative one reference leads back to its rule. -/
inductive Side where
  | left
  | right
  | internal
  deriving DecidableEq, Repr

/-- The class of an alternative whose recursive references stand on these sides. -/
def Recursion.ofSides (sides : List Side) : Recursion :=
  match sides.contains .left, sides.contains .right, sides.contains .internal with
  | false, false, false => .nonRecursive
  | true, false, false => .left
  | false, true, false => .right
  | false, false, true => .internal
  | _, _, _ => .mixed

/-- The graphs of all, of first and of last references. -/
structure ReferenceGraphs where
  all : Digraph
  left : Digraph
  right : Digraph

namespace Grammar

def referenceGraphs (g : Grammar) : ReferenceGraphs where
  all := RuleGraph.build g.rules g.find?
  left := RuleGraph.leftCorners g.rules g.find?
  right := RuleGraph.rightCorners g.rules g.find?

/-- The side on which a reference to `target` leads back to `owner`, when it stands at `position`
of an alternative that ends at `last`. A reference at an edge counts as internal when it leads back
only through parts that are not at that edge. -/
def sideOf (graphs : ReferenceGraphs) (owner : RuleId) (last position : Nat) (target : RuleId) :
    Option Side :=
  if !graphs.all.reaches target owner then none
  else if position = 0 && graphs.left.reaches target owner then some .left
  else if position = last && graphs.right.reaches target owner then some .right
  else some .internal

/-- The sides on which the alternative refers back to `owner`. -/
def sides (g : Grammar) (graphs : ReferenceGraphs) (owner : RuleId) (a : Alternative) : List Side :=
  a.zipIdx.filterMap fun (part, position) =>
    (part.reference?.bind g.find?).bind (sideOf graphs owner (a.length - 1) position)

/-- The class of an alternative of `owner`. -/
def classify (g : Grammar) (graphs : ReferenceGraphs) (owner : RuleId) (a : Alternative) :
    Recursion :=
  .ofSides (g.sides graphs owner a)

/-- Whether the alternative extends a value of `owner`: a reference to it, and something more. -/
def extends? (g : Grammar) (owner : RuleId) : Alternative → Bool
  | .reference name :: _ :: _ => g.find? name = some owner
  | _ => false

/-- The shape of a rule whose alternatives have these classes. -/
def shapeOf (g : Grammar) (owner : RuleId) (alternatives : List (Alternative × Recursion)) :
    Shape :=
  if alternatives.all fun (_, c) => c = .nonRecursive then
    .flat
  else if (alternatives.all fun (a, c) => c = .nonRecursive || (c = .left && g.extends? owner a)) &&
      alternatives.any fun (_, c) => c = .nonRecursive then
    .leftRecursiveSequence
  else
    .general

end Grammar

end TypedGrammar
