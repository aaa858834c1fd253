import TypedGrammar.Code.Identifier
import TypedGrammar.Code.Item
import TypedGrammar.Compilation
import TypedGrammar.Grammar.Printer

/-!
# Generating code

The items for a compiled grammar. A field is boxed when its rule leads back to the owner of the
variant, so that no enum holds itself; the expressions in builders box the same fields.
-/

namespace TypedGrammar.Code

/-- Whether a field of `field` in the enum of `owner` is behind a box. -/
def isBoxed (a : Analysis) (owner field : RuleId) : Bool :=
  a.reaches field owner

/-- The value as a field of the enum of `owner`. -/
def Expr.asField (a : Analysis) (owner field : RuleId) (value : Expr) : Expr :=
  if isBoxed a owner field then .boxed value else value

/-! ## Types -/

/-- The enum of a capability. Its documentation shows the rule. -/
def enumItem (a : Analysis) (c : Capability) : EnumItem where
  rule := c.rule
  doc := [' ', '\x60'] ++ (a.grammar.rule c.rule).print .bnf ++ ['\x60']
  variants := c.variants.map fun v => v.ruleTerms.map fun id => ⟨id, isBoxed a c.rule id⟩

/-- What displaying the terms writes, the fields counted from `n`. -/
def writes (n : Nat) : List Term → List Write
  | [] => []
  | .rule _ :: terms => .field n :: writes (n + 1) terms
  | .literal text :: terms => .text text :: writes n terms
  | .empty :: terms => writes n terms

/-- How a variant is displayed: its terms one after the other. -/
def displayArm (v : Variant) : DisplayArm :=
  ⟨v.ruleTerms.length, writes 0 v.terms⟩

def displayItem (c : Capability) : DisplayItem :=
  ⟨c.rule, c.variants.map displayArm⟩

/-- The conversion along a refinement, into the variant that stands for it. -/
def conversionItem? (a : Analysis) (m : TypeModel) (edge : RuleId × RuleId) :
    Option ConversionItem :=
  ((m.variants edge.2).findIdx? (·.refines = some edge.1)).map fun index =>
    ⟨edge.1, edge.2, .variant edge.2 index [.asField a edge.2 edge.1 .input]⟩

/-! ## Builders -/

mutual

/-- The expression for a fill of a term that holds a value, where `n` parameters are already used,
and how many are used then. -/
def fillExpr (a : Analysis) (m : TypeModel) : Fill → Nat → Option Expr × Nat
  | .previous, n => (some .previous, n)
  | .argument _, n => (some (.parameter n), n + 1)
  | .fixed rule variant fills, n =>
    let (fields, n) := fieldExprs a m rule fills (m.terms rule variant) n
    (some (.variant rule variant fields), n)
  | .literal _, n => (none, n)
  | .empty, n => (none, n)

/-- The expressions for the fields of a variant of `owner`, one for each term that holds a value,
and how many parameters are used then. -/
def fieldExprs (a : Analysis) (m : TypeModel) (owner : RuleId) :
    List Fill → List Term → Nat → List Expr × Nat
  | fill :: fills, .rule field :: terms, n =>
    match fillExpr a m fill n with
    | (some value, n) =>
      let (fields, n) := fieldExprs a m owner fills terms n
      (.asField a owner field value :: fields, n)
    | (none, n) => fieldExprs a m owner fills terms n
  | _ :: fills, _ :: terms, n => fieldExprs a m owner fills terms n
  | _, _, n => ([], n)

end

/-- The expression for the value that a selection makes. -/
def selectionExpr (a : Analysis) (m : TypeModel) (s : Selection) : Expr :=
  .variant s.rule s.variant (fieldExprs a m s.rule s.fills (m.terms s.rule s.variant) 0).1

/-- The methods of a state of the machine, named apart from one another and from the build
method. -/
def stateItem (a : Analysis) (m : TypeModel) (machine : Machine) (state : BuilderState) :
    StateItem :=
  let steps := (machine.stepsFrom state).map (·.2)
  let names := Scope.claimAll ⟨["build".toList]⟩ (steps.map (·.name.snakeCase))
  let methods := (steps.zip names).map fun (step, name) =>
    StateMethod.step ⟨name, step.selection.arguments, selectionExpr a m step.selection⟩
      step.kind.target
  { state := state
    methods := methods ++ if state = machine.ready then [.build .built] else [] }

/-- The builder of a machine: its initial state and, if it has one, its growing state. -/
def machineItem (a : Analysis) (m : TypeModel) (machine : Machine) : BuilderItem :=
  let states := [.initial, .growing].map (stateItem a m machine)
  .machine machine.rule (machine.states.contains .growing)
    (states.filter fun item => !item.methods.isEmpty)

/-- The function of a constructor, which applies the variant to its parameters. -/
def constructorMethod (a : Analysis) (owner : RuleId) (c : Constructor) (name : List Char) :
    Method where
  name := name
  parameters := c.parameters
  body :=
    .variant owner c.variant (c.parameters.zipIdx.map fun (id, i) =>
      .asField a owner id (.parameter i))

/-- The constructors of a contract, named apart from one another. -/
def contractItem (a : Analysis) (contract : Contract) : BuilderItem :=
  let names := Scope.claimAll ⟨[]⟩ (contract.constructors.map (·.name.snakeCase))
  .constructors contract.rule
    ((contract.constructors.zip names).map fun (c, name) =>
      constructorMethod a contract.rule c name)

def builderItem (a : Analysis) (m : TypeModel) : Protocol → BuilderItem
  | .incremental machine => machineItem a m machine
  | .composition contract => contractItem a contract

/-! ## The module -/

/-- The code for a compiled grammar, in a module of this name. -/
def generate (name : List Char) (c : Compilation) : Module where
  name := name
  enums := c.model.capabilities.map (enumItem c.analysis)
  displays := c.model.capabilities.map displayItem
  conversions := c.model.refinements.filterMap (conversionItem? c.analysis c.model)
  builders := c.protocols.map (builderItem c.analysis c.model)

/-- The identifiers of the types of a grammar and of their variants. -/
structure Naming where
  types : List (List Char)
  variants : List (List (List Char))
  deriving DecidableEq

namespace Naming

/-- The identifiers for the types of the model. The types share one namespace, and the variants of
each type have their own. -/
def ofModel (m : TypeModel) : Naming where
  types := Scope.claimAll ⟨["builders".toList]⟩ (m.capabilities.map (·.name.pascalCase))
  variants := m.capabilities.map fun c => Scope.claimAll ⟨[]⟩ (c.variants.map (·.name.pascalCase))

def type (naming : Naming) (rule : RuleId) : List Char :=
  naming.types[rule]?.getD []

def variant (naming : Naming) (rule : RuleId) (index : Nat) : List Char :=
  (naming.variants[rule]?.bind (·[index]?)).getD []

/-- The type of the rule's builder before anything is chosen. -/
def builder (naming : Naming) (rule : RuleId) : List Char :=
  naming.type rule ++ "Builder".toList

/-- The type of the rule's builder while it grows. -/
def growing (naming : Naming) (rule : RuleId) : List Char :=
  naming.type rule ++ "Growing".toList

end Naming

end TypedGrammar.Code
