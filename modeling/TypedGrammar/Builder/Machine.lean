import TypedGrammar.Builder.Selection

/-!
# Builder machines

A `Machine` builds a value of a rule step by step. Its states and transitions follow from its shape
and the kinds of its steps; it starts in `initial` and accepts in `built`.
-/

namespace TypedGrammar

inductive BuilderState where
  /-- Nothing is chosen yet. -/
  | initial
  /-- There is a value, which may grow. -/
  | growing
  /-- There is a value, which can only be built. -/
  | complete
  /-- The value is built. -/
  | built
  deriving DecidableEq, Repr

inductive StepKind where
  /-- Picks the alternative of a flat rule. -/
  | choice
  /-- Begins a sequence. -/
  | base
  /-- Extends a sequence. -/
  | growth
  deriving DecidableEq, Repr

def StepKind.source : StepKind → BuilderState
  | .choice | .base => .initial
  | .growth => .growing

def StepKind.target : StepKind → BuilderState
  | .choice => .complete
  | .base | .growth => .growing

structure Step where
  name : Name
  kind : StepKind
  selection : Selection

/-- Something a builder can be told: one of its steps, or to build. -/
inductive Action where
  | step (index : Nat)
  | build
  deriving DecidableEq, Repr

structure Transition where
  source : BuilderState
  action : Action
  target : BuilderState
  deriving DecidableEq, Repr

/-- The name of the build action, which no step may have. -/
def buildName : List Char :=
  "Build".toList

structure Machine where
  rule : RuleId
  shape : Shape
  steps : List Step

namespace Machine

/-- The state in which there is a value to build. -/
def ready (m : Machine) : BuilderState :=
  if m.shape = .flat then .complete else .growing

/-- The states that the machine uses. -/
def states (m : Machine) : List BuilderState :=
  [.initial, m.ready, .built]

/-- The transitions: one for each step in order, and the build action. -/
def transitions (m : Machine) : List Transition :=
  (m.steps.zipIdx.map fun (step, i) => ⟨step.kind.source, .step i, step.kind.target⟩) ++
    [⟨m.ready, .build, .built⟩]

def next? (m : Machine) (state : BuilderState) (action : Action) : Option BuilderState :=
  (m.transitions.find? fun t => t.source = state ∧ t.action = action).map (·.target)

/-- The actions that are possible in the state, in the order of the transitions. -/
def available (m : Machine) (state : BuilderState) : List Action :=
  (m.transitions.filter (·.source = state)).map (·.action)

/-- The step that the action takes, with its index. -/
def step? (m : Machine) : Action → Option (Nat × Step)
  | .step i => m.steps[i]?.map fun step => (i, step)
  | .build => none

/-- The steps that are possible in the state, with their indices. -/
def stepsFrom (m : Machine) (state : BuilderState) : List (Nat × Step) :=
  (m.available state).filterMap m.step?

/-- The first step possible in the state that has this name in pascal case. -/
def stepNamed? (m : Machine) (state : BuilderState) (name : List Char) : Option Nat :=
  ((m.stepsFrom state).find? fun (_, step) => step.name.pascalCase = name).map (·.1)

def actionNamed? (m : Machine) (state : BuilderState) (name : List Char) : Option Action :=
  if name = buildName then some .build else (m.stepNamed? state name).map .step

def nextNamed? (m : Machine) (state : BuilderState) (name : List Char) : Option BuilderState :=
  (m.actionNamed? state name).bind (m.next? state)

/-- The state after each item of a walk, up to the first that is refused. -/
def trace {α : Type} (next : BuilderState → α → Option BuilderState) (state : BuilderState) :
    List α → List (Option BuilderState)
  | [] => []
  | item :: walk =>
    match next state item with
    | some state => some state :: trace next state walk
    | none => [none]

/-- Whether the actions lead from the initial state to a built value. -/
def accepts (m : Machine) (actions : List Action) : Bool :=
  actions.foldlM m.next? .initial = some .built

/-- Whether the actions of these names lead from the initial state to a built value. -/
def acceptsNames (m : Machine) (names : List (List Char)) : Bool :=
  names.foldlM m.nextNamed? .initial = some .built

end Machine

end TypedGrammar
