import TypedGrammar.Builder.Machine

/-!
# Synthesis of builders

Flat and left recursive rules get a machine, whose accepted walks are the derivations of the rule.
Any other rule gets a contract: one constructor for each alternative, taking finished values.
-/

namespace TypedGrammar

/-- A function that makes a value of a rule from values of other rules. -/
structure Constructor where
  name : Name
  variant : Nat
  parameters : List RuleId
  deriving DecidableEq

structure Contract where
  rule : RuleId
  constructors : List Constructor
  deriving DecidableEq

/-- How values of a rule are built. -/
inductive Protocol where
  | incremental (machine : Machine)
  | composition (contract : Contract)

/-- The name of what a step adds: the names of the terms, where `value` stands in for the one at its
place. -/
def payloadName (ruleName : RuleId → Name) (fallback : Name) (value : Option (Nat × Name))
    (payload : List Term) : Name :=
  .join (payload.zipIdx.map fun (term, i) =>
    match value with
    | some (place, name) => if place = i then name else term.name ruleName fallback
    | none => term.name ruleName fallback) fallback

/-- The rules among the terms, each with its place. -/
def argumentPlaces (payload : List Term) : List (Nat × RuleId) :=
  payload.zipIdx.filterMap fun (term, i) => term.rule?.map fun id => (i, id)

/-- Number of terms that a step of this kind fills with the value built so far. -/
def StepKind.held : StepKind → Nat
  | .growth => 1
  | .choice | .base => 0

/-- The step that leaves the rules of the variant's payload to the caller. -/
def openStep (a : Analysis) (rule : RuleId) (kind : StepKind) (v : Variant) (index : Nat) : Step :=
  let payload := v.terms.drop kind.held
  { name :=
      match kind with
      | .growth => payloadName a.ruleName v.name none payload
      | .choice | .base => v.name
    kind := kind
    selection :=
      ⟨rule, index, (v.terms.take kind.held).map (fun _ => .previous) ++ payload.map Term.fill⟩ }

/-- The step that fixes the one rule of the variant's payload, which stands at `place`, to a
value. -/
def fixedStep (a : Analysis) (rule : RuleId) (kind : StepKind) (v : Variant) (index place : Nat)
    (value : NamedSelection) : Step :=
  let payload := v.terms.drop kind.held
  { name := payloadName a.ruleName v.name (some (place, value.name)) payload
    kind := kind
    selection :=
      ⟨rule, index, (v.terms.take kind.held).map (fun _ => .previous) ++
        (payload.map Term.fill).set place value.selection.fill⟩ }

/-- The steps that a variant contributes, before their names are made unique. If the payload holds
one value and its rule can be enumerated, there is a step for each value. -/
def variantSteps (a : Analysis) (m : TypeModel) (rule : RuleId) (kind : StepKind) (v : Variant)
    (index : Nat) : List Step :=
  match argumentPlaces (v.terms.drop kind.held) with
  | [(place, id)] =>
    match enumerate? a m id with
    | some values => values.map (fixedStep a rule kind v index place)
    | none => [openStep a rule kind v index]
  | _ => [openStep a rule kind v index]

/-- Makes the names of the steps unique among those that leave the same state. -/
def claimNames (initial growing : NameSet) : List Step → List Step
  | [] => []
  | step :: steps =>
    if step.kind.source = .initial then
      let (name, initial) := initial.claim step.name
      { step with name := name } :: claimNames initial growing steps
    else
      let (name, growing) := growing.claim step.name
      { step with name := name } :: claimNames initial growing steps

/-- The kind of the steps for an alternative of this class, in a rule of this shape. -/
def stepKind (shape : Shape) (recursion : Recursion) : StepKind :=
  if shape = .flat then .choice else if recursion = .nonRecursive then .base else .growth

/-- The machine of a rule that can be built step by step. -/
def machineOf (a : Analysis) (m : TypeModel) (rule : RuleId) : Machine :=
  let steps := ((m.variants rule).zip (a.recursion rule)).zipIdx.flatMap fun ((v, c), index) =>
    variantSteps a m rule (stepKind (a.shape rule) c) v index
  ⟨rule, a.shape rule, claimNames (.reserving [buildName]) (.reserving [buildName]) steps⟩

def contractOf (m : TypeModel) (rule : RuleId) : Contract :=
  ⟨rule, (m.variants rule).zipIdx.map fun (v, index) => ⟨v.name, index, v.ruleTerms⟩⟩

def protocolOf (a : Analysis) (m : TypeModel) (rule : RuleId) : Protocol :=
  if a.shape rule = .general then .composition (contractOf m rule)
  else .incremental (machineOf a m rule)

def synthesize (a : Analysis) (m : TypeModel) : List Protocol :=
  a.ruleIds.map (protocolOf a m)

/-- The rule of this name has no machine. -/
structure UnsupportedShape where
  rule : Name
  deriving DecidableEq

def UnsupportedShape.message (e : UnsupportedShape) : String :=
  String.join ["rule <", e.rule.text, "> has no incremental construction protocol"]

/-- The machine of the rule, if it can be built step by step. -/
def synthesizeMachine (a : Analysis) (m : TypeModel) (rule : RuleId) :
    Except UnsupportedShape Machine :=
  match protocolOf a m rule with
  | .incremental machine => .ok machine
  | .composition _ => .error ⟨a.ruleName rule⟩

end TypedGrammar
