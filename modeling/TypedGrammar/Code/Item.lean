import TypedGrammar.Builder.Synthesis

/-!
# Items of generated code

The declarations that are generated for a grammar, before they are written: an enum for each rule,
how its values are displayed, the conversions along refinements, and the builders. Types and
variants are still given by their rule and index.
-/

namespace TypedGrammar.Code

/-- A field of a variant: a value of a rule, behind a box if it could hold its own enum. -/
structure Field where
  rule : RuleId
  boxed : Bool
  deriving DecidableEq, Repr

structure EnumItem where
  rule : RuleId
  doc : List Char
  variants : List (List Field)
  deriving DecidableEq

/-- What displaying a variant writes next. -/
inductive Write where
  | field (index : Nat)
  | text (text : Line)
  deriving DecidableEq

/-- How a variant is displayed: the number of its fields, and what is written. -/
structure DisplayArm where
  fields : Nat
  writes : List Write
  deriving DecidableEq

structure DisplayItem where
  rule : RuleId
  arms : List DisplayArm
  deriving DecidableEq

inductive Expr where
  /-- The value that a conversion is given. -/
  | input
  /-- The value built so far. -/
  | previous
  /-- A parameter of the method. -/
  | parameter (index : Nat)
  | boxed (value : Expr)
  /-- A variant of a rule applied to its fields. -/
  | variant (rule : RuleId) (index : Nat) (fields : List Expr)

/-- The conversion of the values of a rule into those of one that it refines. -/
structure ConversionItem where
  sub : RuleId
  sup : RuleId
  body : Expr

/-- A method or function that takes values of rules. -/
structure Method where
  name : List Char
  parameters : List RuleId
  body : Expr

/-- A method of a builder state: a step to another state, or the one that builds. -/
inductive StateMethod where
  | step (method : Method) (target : BuilderState)
  | build (target : BuilderState)

structure StateItem where
  state : BuilderState
  methods : List StateMethod

/-- The builder of a rule, or its constructors. -/
inductive BuilderItem where
  /-- A builder with a type for each state; `grows` if one of them is open. -/
  | machine (rule : RuleId) (grows : Bool) (states : List StateItem)
  | constructors (rule : RuleId) (functions : List Method)

structure Module where
  name : List Char
  enums : List EnumItem
  displays : List DisplayItem
  conversions : List ConversionItem
  builders : List BuilderItem

end TypedGrammar.Code
