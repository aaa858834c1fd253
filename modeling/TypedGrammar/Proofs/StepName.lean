import Mathlib
import TypedGrammar.Proofs.BuilderDerivation
import TypedGrammar.Proofs.CapitalizedName

/-!
# Names of steps

A machine looks the names of a walk up step by step and takes the first step of each name. Steps that
leave one state all lead to the same state, so that walk is accepted exactly when some actions with these
names are. The names tell the actions apart where pascal case tells the keys apart, since no two steps
that leave a state have the same key.
-/

namespace TypedGrammar

/-! ### Claimed names -/

/-- The names that are claimed for the steps that leave the state. -/
def claimedFor (initial growing : NameSet) (state : BuilderState) : NameSet :=
  if state = .initial then initial else growing

/-- The first step is given a fresh name for the state it leaves, and its key is taken from then on. -/
lemma claimNames_cons (initial growing : NameSet) (step : Step) (steps : List Step) :
    ∃ initial' growing',
      claimNames initial growing (step :: steps) =
        { step with name := (claimedFor initial growing step.kind.source).fresh step.name } ::
          claimNames initial' growing' steps ∧
      ((claimedFor initial growing step.kind.source).fresh step.name).key ∈
        (claimedFor initial' growing' step.kind.source).taken ∧
      ∀ state, (claimedFor initial growing state).taken ⊆
        (claimedFor initial' growing' state).taken := by
  rw [claimNames]
  by_cases hsource : step.kind.source = .initial
  · refine ⟨(initial.claim step.name).2, growing, ?_, ?_, fun state => ?_⟩
    · simp [hsource, claimedFor, NameSet.claim]
    · simp [hsource, claimedFor, NameSet.claim]
    · unfold claimedFor
      split
      · exact List.subset_cons_self _ _
      · exact List.Subset.refl _
  · refine ⟨initial, (growing.claim step.name).2, ?_, ?_, fun state => ?_⟩
    · simp [hsource, claimedFor, NameSet.claim]
    · simp [hsource, claimedFor, NameSet.claim]
    · unfold claimedFor
      split
      · exact List.Subset.refl _
      · exact List.subset_cons_self _ _

lemma key_not_mem_of_mem_claimNames {initial growing : NameSet} {steps : List Step} {s : Step}
    (hs : s ∈ claimNames initial growing steps) :
    s.name.key ∉ (claimedFor initial growing s.kind.source).taken := by
  induction steps generalizing initial growing with
  | nil => cases hs
  | cons step steps ih =>
    obtain ⟨initial', growing', hcons, _, hsubset⟩ := claimNames_cons initial growing step steps
    rw [hcons] at hs
    rcases List.mem_cons.mp hs with rfl | hs
    · exact NameSet.key_fresh_not_mem
    · exact fun hkey => ih hs (hsubset _ hkey)

/-- No two steps that leave the same state have the same key. -/
theorem pairwise_key_claimNames (initial growing : NameSet) (steps : List Step) :
    (claimNames initial growing steps).Pairwise fun s t =>
      s.kind.source = t.kind.source → s.name.key ≠ t.name.key := by
  induction steps generalizing initial growing with
  | nil => exact List.Pairwise.nil
  | cons step steps ih =>
    obtain ⟨initial', growing', hcons, hkey, _⟩ := claimNames_cons initial growing step steps
    rw [hcons]
    refine List.pairwise_cons.mpr ⟨fun t ht hsource heq => ?_, ih initial' growing'⟩
    refine key_not_mem_of_mem_claimNames ht ?_
    rw [← hsource, ← heq]
    exact hkey

namespace Machine

/-- What the names of a machine rest on: no step has the reserved key, those that leave one state have
different keys, and they lead to one state. -/
structure WellNamed (m : Machine) : Prop where
  key_ne : ∀ s ∈ m.steps, s.name.key ≠ Text.lower buildName
  pairwise_key : m.steps.Pairwise fun s t =>
    s.kind.source = t.kind.source → s.name.key ≠ t.name.key
  target_eq : ∀ s ∈ m.steps, ∀ t ∈ m.steps, s.kind.source = t.kind.source →
    s.kind.target = t.kind.target

/-- The name of an action in a walk. -/
def actionName? (m : Machine) : Action → Option (List Char)
  | .step i => m.steps[i]?.map (·.name.pascalCase)
  | .build => some buildName

/-- The actions have these names, in order. -/
def Named (m : Machine) (actions : List Action) (names : List (List Char)) : Prop :=
  List.Forall₂ (fun action name => m.actionName? action = some name) actions names

/-- A step is found under its name in the state that it leaves, and no two accepted walks have the same
names. -/
def NamesIdentify (m : Machine) : Prop :=
  (∀ state, ∀ entry ∈ m.stepsFrom state,
    m.stepNamed? state entry.2.name.pascalCase = some entry.1) ∧
  ∀ actions actions' names, m.accepts actions = true → m.accepts actions' = true →
    m.Named actions names → m.Named actions' names → actions = actions'

variable {m : Machine} {state state' : BuilderState} {name : List Char} {i : Nat} {s : Step}

lemma mem_stepsFrom_iff :
    (i, s) ∈ m.stepsFrom state ↔ m.steps[i]? = some s ∧ s.kind.source = state := by
  simp only [stepsFrom, available, List.mem_filterMap, List.mem_map, List.mem_filter,
    mem_transitions, decide_eq_true_eq]
  constructor
  · rintro ⟨_, ⟨t, ⟨⟨j, s', hs', rfl⟩ | rfl, hsource⟩, rfl⟩, hstep⟩
    · obtain ⟨s'', hs'', heq⟩ := Option.map_eq_some_iff.mp hstep
      cases heq
      cases hs'.symm.trans hs''
      exact ⟨hs', hsource⟩
    · cases hstep
  · rintro ⟨hs, hsource⟩
    exact ⟨.step i, ⟨_, ⟨.inl ⟨i, s, hs, rfl⟩, hsource⟩, rfl⟩, by simp [step?, hs]⟩

lemma exists_of_stepNamed? (h : m.stepNamed? state name = some i) :
    ∃ s, m.steps[i]? = some s ∧ s.kind.source = state ∧ s.name.pascalCase = name := by
  obtain ⟨⟨j, s⟩, hfind, rfl⟩ := Option.map_eq_some_iff.mp h
  obtain ⟨hs, hsource⟩ := mem_stepsFrom_iff.mp (List.mem_of_find?_eq_some hfind)
  exact ⟨s, hs, hsource, by simpa using List.find?_some hfind⟩

lemma exists_stepNamed? (hs : (i, s) ∈ m.stepsFrom state) :
    ∃ j, m.stepNamed? state s.name.pascalCase = some j := by
  cases hfind : m.stepNamed? state s.name.pascalCase with
  | some j => exact ⟨j, rfl⟩
  | none =>
    have hother := List.find?_eq_none.mp (Option.map_eq_none_iff.mp hfind) (i, s) hs
    exact absurd hother (by simp)

lemma WellNamed.pascalCase_ne (h : m.WellNamed) (hs : s ∈ m.steps) :
    s.name.pascalCase ≠ buildName :=
  fun heq => h.key_ne s hs (key_eq_of_pascalCase_eq_buildName heq)

/-- The machine goes on by a name as it goes on by some action of that name. -/
theorem WellNamed.nextNamed?_eq_some_iff (h : m.WellNamed) :
    m.nextNamed? state name = some state' ↔
      ∃ action, m.actionName? action = some name ∧ m.next? state action = some state' := by
  rw [nextNamed?, Option.bind_eq_some_iff, actionNamed?]
  constructor
  · rintro ⟨action, haction, hnext⟩
    refine ⟨action, ?_, hnext⟩
    split at haction
    · rename_i hbuild
      cases haction
      rw [hbuild]
      rfl
    · obtain ⟨i, hi, rfl⟩ := Option.map_eq_some_iff.mp haction
      obtain ⟨s, hs, _, rfl⟩ := exists_of_stepNamed? hi
      rw [actionName?, hs, Option.map_some]
  · rintro ⟨action, hname, hnext⟩
    cases action with
    | build =>
      cases hname
      exact ⟨.build, if_pos rfl, hnext⟩
    | step i =>
      obtain ⟨s, hs, rfl⟩ := Option.map_eq_some_iff.mp hname
      obtain ⟨s', hs', hsource, htarget⟩ := next?_step_iff.mp hnext
      cases hs.symm.trans hs'
      have hmem := List.mem_of_getElem? hs
      -- The step that is found under the name may be another one, which leads to the same state.
      obtain ⟨j, hj⟩ := exists_stepNamed? (mem_stepsFrom_iff.mpr ⟨hs, hsource⟩)
      obtain ⟨t, ht, hsource', _⟩ := exists_of_stepNamed? hj
      refine ⟨.step j, ?_, next?_step_iff.mpr ⟨t, ht, hsource', ?_⟩⟩
      · rw [if_neg (h.pascalCase_ne hmem), hj, Option.map_some]
      · rw [← htarget]
        exact h.target_eq t (List.mem_of_getElem? ht) s hmem (hsource'.trans hsource.symm)

/-- A walk by names is a walk by some actions of these names. -/
theorem WellNamed.foldlM_nextNamed?_eq_some_iff (h : m.WellNamed) {names : List (List Char)} :
    names.foldlM m.nextNamed? state = some state' ↔
      ∃ actions, m.Named actions names ∧ actions.foldlM m.next? state = some state' := by
  induction names generalizing state with
  | nil =>
    constructor
    · intro hrun
      exact ⟨[], .nil, hrun⟩
    · rintro ⟨actions, hnamed, hrun⟩
      rwa [List.forall₂_nil_right_iff.mp hnamed] at hrun
  | cons name names ih =>
    simp only [List.foldlM_cons, Option.bind_eq_bind, Option.bind_eq_some_iff,
      h.nextNamed?_eq_some_iff, ih]
    constructor
    · rintro ⟨middle, ⟨action, hname, hnext⟩, actions, hnamed, hrun⟩
      refine ⟨action :: actions, .cons hname hnamed, ?_⟩
      simp [hnext, hrun]
    · rintro ⟨actions, hnamed, hrun⟩
      obtain ⟨action, rest, hname, hrest, rfl⟩ := List.forall₂_cons_right_iff.mp hnamed
      simp only [List.foldlM_cons, Option.bind_eq_bind, Option.bind_eq_some_iff] at hrun
      obtain ⟨middle, hnext, hrun⟩ := hrun
      exact ⟨middle, ⟨action, hname, hnext⟩, rest, hrest, hrun⟩

lemma WellNamed.index_eq (h : m.WellNamed) {j : Nat} {t : Step} (hs : m.steps[i]? = some s)
    (ht : m.steps[j]? = some t) (hsource : s.kind.source = t.kind.source)
    (hkey : s.name.key = t.name.key) : i = j := by
  obtain ⟨hi, rfl⟩ := List.getElem?_eq_some_iff.mp hs
  obtain ⟨hj, rfl⟩ := List.getElem?_eq_some_iff.mp ht
  have hpairwise := List.pairwise_iff_getElem.mp h.pairwise_key
  rcases Nat.lt_trichotomy i j with hlt | heq | hlt
  · exact absurd hkey (hpairwise i j hi hj hlt hsource)
  · exact heq
  · exact absurd hkey.symm (hpairwise j i hj hi hlt hsource.symm)

section Apart

/-! Names that differ in pascal case wherever they differ in their keys. -/

variable (h : m.WellNamed) (hcase : ∀ s ∈ m.steps, ∀ t ∈ m.steps, s.kind.source = t.kind.source →
  s.name.pascalCase = t.name.pascalCase → s.name.key = t.name.key)
include h hcase

lemma WellNamed.stepNamed?_eq_some (hmem : (i, s) ∈ m.stepsFrom state) :
    m.stepNamed? state s.name.pascalCase = some i := by
  obtain ⟨j, hj⟩ := exists_stepNamed? hmem
  obtain ⟨hs, rfl⟩ := mem_stepsFrom_iff.mp hmem
  obtain ⟨t, ht, hsource, hpascal⟩ := exists_of_stepNamed? hj
  have hkey := hcase t (List.mem_of_getElem? ht) s (List.mem_of_getElem? hs) hsource hpascal
  rw [hj, h.index_eq ht hs hsource hkey]

/-- Two actions that are possible in one state have different names. -/
lemma WellNamed.action_eq {action action' : Action} {after after' : BuilderState}
    (hname : m.actionName? action = some name) (hname' : m.actionName? action' = some name)
    (hnext : m.next? state action = some after) (hnext' : m.next? state action' = some after') :
    action = action' := by
  cases action with
  | build =>
    cases action' with
    | build => rfl
    | step j =>
      obtain ⟨t, ht, rfl⟩ := Option.map_eq_some_iff.mp hname'
      exact absurd (Option.some.inj hname).symm (h.pascalCase_ne (List.mem_of_getElem? ht))
  | step i =>
    obtain ⟨s, hs, rfl⟩ := Option.map_eq_some_iff.mp hname
    cases action' with
    | build => exact absurd (Option.some.inj hname').symm (h.pascalCase_ne (List.mem_of_getElem? hs))
    | step j =>
      obtain ⟨t, ht, hpascal⟩ := Option.map_eq_some_iff.mp hname'
      obtain ⟨s', hs', hsource, _⟩ := next?_step_iff.mp hnext
      obtain ⟨t', ht', hsource', _⟩ := next?_step_iff.mp hnext'
      cases hs.symm.trans hs'
      cases ht.symm.trans ht'
      have hfound := h.stepNamed?_eq_some hcase (mem_stepsFrom_iff.mpr ⟨hs, hsource⟩)
      have hfound' := h.stepNamed?_eq_some hcase (mem_stepsFrom_iff.mpr ⟨ht, hsource'⟩)
      rw [hpascal, hfound] at hfound'
      rw [Option.some.inj hfound']

theorem WellNamed.actions_eq {actions actions' : List Action} {names : List (List Char)}
    {after after' : BuilderState} (hnamed : m.Named actions names) (hnamed' : m.Named actions' names)
    (hrun : actions.foldlM m.next? state = some after)
    (hrun' : actions'.foldlM m.next? state = some after') : actions = actions' := by
  induction hnamed generalizing state actions' with
  | nil => exact (List.forall₂_nil_right_iff.mp hnamed').symm
  | cons hname _ ih =>
    obtain ⟨action', rest', hname', hrest', rfl⟩ := List.forall₂_cons_right_iff.mp hnamed'
    simp only [List.foldlM_cons, Option.bind_eq_bind, Option.bind_eq_some_iff] at hrun hrun'
    obtain ⟨middle, hnext, hrun⟩ := hrun
    obtain ⟨middle', hnext', hrun'⟩ := hrun'
    obtain rfl := h.action_eq hcase hname hname' hnext hnext'
    cases hnext.symm.trans hnext'
    rw [ih hrest' hrun hrun']

end Apart

/-- The names of a machine's walks identify them exactly when no two of its steps that leave one state
differ in their keys but not in pascal case. -/
theorem WellNamed.namesIdentify_iff (h : m.WellNamed) :
    m.NamesIdentify ↔ ∀ s ∈ m.steps, ∀ t ∈ m.steps, s.kind.source = t.kind.source →
      s.name.pascalCase = t.name.pascalCase → s.name.key = t.name.key := by
  constructor
  · rintro ⟨hfound, _⟩ s hs t ht hsource hpascal
    obtain ⟨i, hi⟩ := List.mem_iff_getElem?.mp hs
    obtain ⟨j, hj⟩ := List.mem_iff_getElem?.mp ht
    have hs := hfound t.kind.source (i, s) (mem_stepsFrom_iff.mpr ⟨hi, hsource⟩)
    have ht := hfound t.kind.source (j, t) (mem_stepsFrom_iff.mpr ⟨hj, rfl⟩)
    rw [hpascal, ht] at hs
    cases hs
    cases hi.symm.trans hj
    rfl
  · intro hcase
    refine ⟨fun state entry hentry => h.stepNamed?_eq_some hcase hentry, ?_⟩
    intro actions actions' names haccepts haccepts' hnamed hnamed'
    exact h.actions_eq hcase hnamed hnamed' (of_decide_eq_true haccepts)
      (of_decide_eq_true haccepts')

end Machine

/-! ### Synthesized machines -/

lemma StepKind.target_eq {kind kind' : StepKind} (hsource : kind.source = kind'.source)
    (hchoice : kind = .choice ↔ kind' = .choice) : kind.target = kind'.target := by
  cases kind <;> cases kind' <;> simp_all [StepKind.source, StepKind.target]

lemma wellNamed_machineOf {g : Grammar} (hg : g.Closed) {start rule : RuleId}
    (hshape : (g.analysis start).shape rule ≠ .general) :
    (machineOf (g.analysis start) g.typeModel rule).WellNamed where
  key_ne := by
    intro s hs hkey
    have hfree := key_not_mem_of_mem_claimNames hs
    rw [claimedFor, ite_self, hkey] at hfree
    exact hfree List.mem_cons_self
  pairwise_key := pairwise_key_claimNames _ _ _
  target_eq := by
    intro s hs t ht hsource
    refine StepKind.target_eq hsource ?_
    rw [kind_choice_iff hg hshape hs, kind_choice_iff hg hshape ht]

lemma exists_machineOf_of_mem {a : Analysis} {model : TypeModel} {m : Machine}
    (hm : .incremental m ∈ synthesize a model) :
    ∃ rule, a.shape rule ≠ .general ∧ m = machineOf a model rule := by
  obtain ⟨rule, _, hrule⟩ := List.mem_map.mp hm
  rw [protocolOf] at hrule
  split at hrule
  · cases hrule
  · rename_i hshape
    cases hrule
    exact ⟨rule, hshape, rfl⟩

/-- A machine that is synthesized accepts the names of the walks that it accepts. A step is found under
its name, and a walk is determined by its names, unless two steps that leave one state have the same
pascal case but different keys, which takes a letter that capitalizing takes the case from. -/
theorem synthesize_namesIdentify {g : Grammar} {start : Option Name} {a : Analysis} {m : Machine}
    (h : g.analyze start = .ok a) (hm : .incremental m ∈ synthesize a g.typeModel) :
    (∀ names, m.acceptsNames names = true ↔
      ∃ actions, m.accepts actions = true ∧ m.Named actions names) ∧
    (m.NamesIdentify ↔ ∀ s ∈ m.steps, ∀ t ∈ m.steps, s.kind.source = t.kind.source →
      s.name.pascalCase = t.name.pascalCase → s.name.key = t.name.key) ∧
    (g.Consists Unicode.Recasable → m.NamesIdentify) := by
  have hg := Grammar.closed_of_analyze h
  obtain ⟨rfl, _⟩ := Grammar.analyze_eq_ok h
  obtain ⟨rule, hshape, rfl⟩ := exists_machineOf_of_mem hm
  have hwell := wellNamed_machineOf hg hshape
  refine ⟨fun names => ?_, hwell.namesIdentify_iff, fun hrecasable => ?_⟩
  · simp only [Machine.acceptsNames, Machine.accepts, decide_eq_true_eq,
      hwell.foldlM_nextNamed?_eq_some_iff, and_comm]
  · refine hwell.namesIdentify_iff.mpr fun s hs t ht _ hpascal => ?_
    have hnames := hrecasable.machineOf recasable_of_ascii (g.startRule start) rule
    rw [key_eq_flatMap_pascalCase (hnames s hs), key_eq_flatMap_pascalCase (hnames t ht), hpascal]

/-- A number is one or more digits, which are called `Zero` and `One`. -/
theorem synthesize_nestedNumbers_namesIdentify :
    let m := machineOf (nestedNumbers.analysis 0) nestedNumbers.typeModel 1
    .incremental m ∈ synthesize (nestedNumbers.analysis 0) nestedNumbers.typeModel ∧
      (∃ actions, m.accepts actions = true ∧
        m.Named actions ["One".toList, "Zero".toList, "Build".toList]) ∧ m.NamesIdentify := by
  intro m
  have h : nestedNumbers.analyze none = .ok (nestedNumbers.analysis 0) := by cbv
  have hshape : (nestedNumbers.analysis 0).shape 1 ≠ .general := by decide +kernel
  have hm : .incremental m ∈ synthesize (nestedNumbers.analysis 0) nestedNumbers.typeModel :=
    List.mem_map.mpr ⟨1, by decide, if_neg hshape⟩
  obtain ⟨hnames, _, hidentify⟩ := synthesize_namesIdentify h hm
  exact ⟨hm, (hnames _).mp (by decide +kernel), hidentify (by decide +kernel)⟩

/-- The sharp s, as one small letter or as two capitals. -/
def eszett : Grammar :=
  .single ⟨⟨[⟨"eszett".toList, by decide⟩], by simp⟩,
    ⟨[[.literal ⟨['ß'], by decide⟩], [.literal ⟨['S', 'S'], by decide⟩]], by simp⟩⟩

/-- Both steps are called `SS`, so that the second is never found. -/
theorem synthesize_eszett_not_namesIdentify :
    let m := machineOf (eszett.analysis 0) eszett.typeModel 0
    eszett.analyze none = .ok (eszett.analysis 0) ∧
      .incremental m ∈ synthesize (eszett.analysis 0) eszett.typeModel ∧
      m.accepts [.step 0, .build] = true ∧ m.accepts [.step 1, .build] = true ∧
      m.Named [.step 0, .build] ["SS".toList, "Build".toList] ∧
      m.Named [.step 1, .build] ["SS".toList, "Build".toList] ∧
      m.stepNamed? .initial "SS".toList = some 0 ∧ ¬ m.NamesIdentify := by
  intro m
  have h : eszett.analyze none = .ok (eszett.analysis 0) := by cbv
  have hshape : (eszett.analysis 0).shape 0 ≠ .general := by decide +kernel
  have hm : .incremental m ∈ synthesize (eszett.analysis 0) eszett.typeModel :=
    List.mem_map.mpr ⟨0, by decide, if_neg hshape⟩
  have haccepts : m.accepts [.step 0, .build] = true := by decide +kernel
  have haccepts' : m.accepts [.step 1, .build] = true := by decide +kernel
  have hname : m.actionName? (.step 0) = some "SS".toList := by decide +kernel
  have hname' : m.actionName? (.step 1) = some "SS".toList := by decide +kernel
  have hnamed : m.Named [.step 0, .build] ["SS".toList, "Build".toList] :=
    .cons hname (.cons rfl .nil)
  have hnamed' : m.Named [.step 1, .build] ["SS".toList, "Build".toList] :=
    .cons hname' (.cons rfl .nil)
  refine ⟨h, hm, haccepts, haccepts', hnamed, hnamed', by decide +kernel, ?_⟩
  rintro ⟨_, hunique⟩
  have heq := hunique _ _ _ haccepts haccepts' hnamed hnamed'
  cases heq

end TypedGrammar
