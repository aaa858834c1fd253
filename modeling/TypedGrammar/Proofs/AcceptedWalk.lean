import Mathlib
import TypedGrammar.Proofs.ConstructionShape
import TypedGrammar.Proofs.StepName

/-!
# Accepted walks

A machine has a value that can only be built after one choice, and one that may grow after a base and any
number of growths. The machines that are synthesized build from one of these two states, and there is a tree
of the rule that they can build, so that no walk of theirs is stuck before a value is built.
-/

namespace TypedGrammar

namespace Machine

variable {m : Machine} {state : BuilderState} {actions : List Action} {action : Action}

/-- There is a step of this kind at the index. -/
def HasKind (m : Machine) (kind : StepKind) (i : ℕ) : Prop :=
  ∃ s, m.steps[i]? = some s ∧ s.kind = kind

/-! ### Walks to a value -/

lemma run?_step_iff {i : ℕ} : m.run? [.step i] = some state ↔
    ∃ s, m.steps[i]? = some s ∧ s.kind.source = .initial ∧ s.kind.target = state := by
  rw [← next?_step_iff, run?, List.foldlM_cons]
  cases m.next? .initial (.step i) <;> simp

/-- A step is the last of a walk from the state that it leaves. -/
lemma run?_append_step_iff {i : ℕ} : m.run? (actions ++ [.step i]) = some state ↔
    ∃ s, m.steps[i]? = some s ∧ m.run? actions = some s.kind.source ∧ s.kind.target = state := by
  rw [run?_append_singleton]
  simp only [next?_step_iff]
  constructor
  · rintro ⟨_, hrun, s, hs, rfl, htarget⟩
    exact ⟨s, hs, hrun, htarget⟩
  · rintro ⟨s, hs, hrun, htarget⟩
    exact ⟨_, hrun, s, hs, rfl, htarget⟩

/-- A walk that ends before the value is built ends with a step. -/
lemma exists_step_of_run? (hrun : m.run? actions = some state) (hinitial : state ≠ .initial)
    (hbuilt : state ≠ .built) : ∃ before i s, actions = before ++ [.step i] ∧
      m.steps[i]? = some s ∧ m.run? before = some s.kind.source ∧ s.kind.target = state := by
  rcases List.eq_nil_or_concat' actions with rfl | ⟨before, action, rfl⟩
  · cases hrun
    exact absurd rfl hinitial
  · cases action with
    | step i => exact ⟨before, i, (run?_append_step_iff.mp hrun).imp fun s hs => ⟨rfl, hs⟩⟩
    | build =>
      obtain ⟨_, _, hnext⟩ := run?_append_singleton.mp hrun
      exact absurd (next?_build_iff.mp hnext).2 hbuilt

theorem run?_eq_complete_iff : m.run? actions = some .complete ↔
    ∃ i, m.HasKind .choice i ∧ actions = [.step i] := by
  constructor
  · intro hrun
    obtain ⟨before, i, s, rfl, hs, hbefore, htarget⟩ := exists_step_of_run? hrun (by simp) (by simp)
    cases hkind : s.kind with
    | choice =>
      rw [hkind] at hbefore
      exact ⟨i, ⟨s, hs, hkind⟩, by rw [run?_eq_initial hbefore, List.nil_append]⟩
    | base => simp [hkind, StepKind.target] at htarget
    | growth => simp [hkind, StepKind.target] at htarget
  · rintro ⟨i, ⟨s, hs, hkind⟩, rfl⟩
    exact run?_step_iff.mpr ⟨s, hs, by rw [hkind]; rfl, by rw [hkind]; rfl⟩

theorem run?_eq_growing_iff : m.run? actions = some .growing ↔
    ∃ i, ∃ growth : List ℕ, m.HasKind .base i ∧ (∀ j ∈ growth, m.HasKind .growth j) ∧
      actions = .step i :: growth.map .step := by
  constructor
  · -- From the last step back: a growth is after a walk of the same kind, and a base is the first.
    induction actions using List.reverseRecOn with
    | nil => intro hrun; cases hrun
    | append_singleton before last ih =>
      intro hrun
      obtain ⟨before', i, s, heq, hs, hbefore, htarget⟩ :=
        exists_step_of_run? hrun (by simp) (by simp)
      obtain ⟨rfl, hlast⟩ := List.append_inj' heq rfl
      cases hlast
      cases hkind : s.kind with
      | choice => simp [hkind, StepKind.target] at htarget
      | base =>
        rw [hkind] at hbefore
        rw [run?_eq_initial hbefore]
        exact ⟨i, [], ⟨s, hs, hkind⟩, by simp, rfl⟩
      | growth =>
        rw [hkind] at hbefore
        obtain ⟨first, growth, hfirst, hgrowth, rfl⟩ := ih hbefore
        refine ⟨first, growth ++ [i], hfirst, ?_, by simp⟩
        exact List.forall_mem_append.mpr ⟨hgrowth, by simpa using ⟨s, hs, hkind⟩⟩
  · rintro ⟨i, growth, ⟨s, hs, hkind⟩, hgrowth, rfl⟩
    induction growth using List.reverseRecOn with
    | nil => exact run?_step_iff.mpr ⟨s, hs, by rw [hkind]; rfl, by rw [hkind]; rfl⟩
    | append_singleton growth j ih =>
      obtain ⟨hgrowth, hj⟩ := List.forall_mem_append.mp hgrowth
      obtain ⟨t, ht, htkind⟩ := hj j (List.mem_singleton.mpr rfl)
      rw [List.map_append, ← List.cons_append]
      refine run?_append_step_iff.mpr ⟨t, ht, ?_, by rw [htkind]; rfl⟩
      rw [htkind]
      exact ih hgrowth

/-! ### Possible actions -/

lemma mem_available_iff : action ∈ m.available state ↔ (m.next? state action).isSome := by
  rw [Option.isSome_iff_exists]
  simp only [next?_eq_some_iff, available, List.mem_map, List.mem_filter, decide_eq_true_eq]
  constructor
  · rintro ⟨⟨_, _, target⟩, ⟨ht, rfl⟩, rfl⟩
    exact ⟨target, ht⟩
  · rintro ⟨target, ht⟩
    exact ⟨_, ⟨ht, rfl⟩, rfl⟩

lemma map_action_transitions (m : Machine) :
    m.transitions.map (·.action) = (List.range m.steps.length).map .step ++ [.build] := by
  have hsteps : m.steps.zipIdx.map (fun t => Action.step t.2) =
      (List.range m.steps.length).map .step := by
    rw [List.range_eq_range', ← List.zipIdx_map_snd 0 m.steps, List.map_map]
    rfl
  rw [transitions, List.map_append, List.map_map, ← hsteps]
  rfl

/-- No action is listed twice. -/
lemma nodup_available (m : Machine) (state : BuilderState) : (m.available state).Nodup := by
  have hactions : (m.transitions.map (·.action)).Nodup := by
    rw [map_action_transitions, List.nodup_append]
    refine ⟨List.nodup_range.map fun i j h => Action.step.inj h, List.nodup_singleton _, ?_⟩
    simp
  exact hactions.sublist (List.filter_sublist.map _)

lemma ready_ne_built (m : Machine) : m.ready ≠ .built := by
  unfold ready
  split <;> simp

/-- A built value is final. -/
lemma next?_built (m : Machine) (action : Action) : m.next? .built action = none := by
  refine Option.eq_none_iff_forall_ne_some.mpr fun state hnext => ?_
  cases action with
  | step i =>
    obtain ⟨s, _, hsource, _⟩ := next?_step_iff.mp hnext
    cases hkind : s.kind <;> simp [hkind, StepKind.source] at hsource
  | build => exact m.ready_ne_built (next?_build_iff.mp hnext).1.symm

lemma available_built (m : Machine) : m.available .built = [] := by
  refine List.eq_nil_iff_forall_not_mem.mpr fun action haction => ?_
  rw [mem_available_iff, next?_built] at haction
  cases haction

/-! ### Accepted walks -/

theorem accepts_iff_of_flat (h : m.shape = .flat) : m.accepts actions = true ↔
    ∃ i, m.HasKind .choice i ∧ actions = [.step i, .build] := by
  have hready : m.ready = .complete := if_pos h
  rw [accepts_iff, hready]
  simp only [run?_eq_complete_iff]
  constructor
  · rintro ⟨_, rfl, i, hi, rfl⟩
    exact ⟨i, hi, rfl⟩
  · rintro ⟨i, hi, rfl⟩
    exact ⟨[.step i], rfl, i, hi, rfl⟩

theorem accepts_iff_of_ne_flat (h : m.shape ≠ .flat) : m.accepts actions = true ↔
    ∃ i, ∃ growth : List ℕ, m.HasKind .base i ∧ (∀ j ∈ growth, m.HasKind .growth j) ∧
      actions = .step i :: growth.map .step ++ [.build] := by
  have hready : m.ready = .growing := if_neg h
  rw [accepts_iff, hready]
  simp only [run?_eq_growing_iff]
  constructor
  · rintro ⟨_, rfl, i, growth, hi, hgrowth, rfl⟩
    exact ⟨i, growth, hi, hgrowth, rfl⟩
  · rintro ⟨i, growth, hi, hgrowth, rfl⟩
    exact ⟨_, rfl, i, growth, hi, hgrowth, rfl⟩

/-- Where every step leads to the state from which a value is built, only the initial state can be stuck,
and it is not if some walk is accepted. -/
theorem exists_accepts_append (hready : ∀ s ∈ m.steps, s.kind.target = m.ready)
    (haccepts : ∃ walk, m.accepts walk = true) (hrun : m.run? actions = some state)
    (hbuilt : state ≠ .built) : ∃ rest, m.accepts (actions ++ rest) = true := by
  by_cases hinitial : state = .initial
  · subst hinitial
    rw [run?_eq_initial hrun]
    exact haccepts
  · obtain ⟨before, i, s, rfl, hs, _, rfl⟩ := exists_step_of_run? hrun hinitial hbuilt
    rw [hready s (List.mem_of_getElem? hs)] at hrun
    exact ⟨[.build], accepts_iff.mpr ⟨_, rfl, hrun⟩⟩

lemma accepts_append_of_built (hrun : m.run? actions = some .built) (rest : List Action) :
    m.accepts (actions ++ action :: rest) = false := by
  have hfold : (actions ++ action :: rest).foldlM m.next? .initial = none := by
    rw [List.foldlM_append, show actions.foldlM m.next? .initial = some .built from hrun]
    simp [next?_built]
  simp [accepts, hfold]

end Machine

/-- The walks of a machine that is synthesized. A flat one takes one step and builds. One that is left
recursive takes a base, any number of growths, and builds. In each state the possible actions are those
that lead on, each listed once. No walk is stuck: unless its value is built, which nothing follows, it can
be extended to one that is accepted. -/
theorem synthesize_walks {g : Grammar} {start : Option Name} {a : Analysis} {m : Machine}
    (h : g.analyze start = .ok a) (hm : .incremental m ∈ synthesize a g.typeModel) :
    (m.shape = .flat ∨ m.shape = .leftRecursiveSequence) ∧
    (m.shape = .flat → ∀ actions, m.accepts actions = true ↔
      ∃ i < m.steps.length, actions = [.step i, .build]) ∧
    (m.shape = .leftRecursiveSequence → ∀ actions, m.accepts actions = true ↔
      ∃ i, ∃ growth : List ℕ, m.HasKind .base i ∧ (∀ j ∈ growth, m.HasKind .growth j) ∧
        actions = .step i :: growth.map .step ++ [.build]) ∧
    (∀ state action, (m.next? state action).isSome ↔ action ∈ m.available state) ∧
    (∀ state, (m.available state).Nodup) ∧
    (∀ walk state, m.run? walk = some state → state ≠ .built →
      ∃ rest, m.accepts (walk ++ rest) = true) ∧
    m.available .built = [] ∧
    ∀ walk action rest, m.run? walk = some .built → m.accepts (walk ++ action :: rest) = false := by
  have hg := Grammar.closed_of_analyze h
  obtain ⟨rfl, _, hproductive⟩ := Grammar.analyze_eq_ok h
  obtain ⟨rule, hshape, rfl⟩ := exists_machineOf_of_mem hm
  set m := machineOf (g.analysis (g.startRule start)) g.typeModel rule
  have haccepts : ∃ walk, m.accepts walk = true := by
    obtain ⟨tree, htree⟩ := Grammar.productivityErrors_eq_nil_iff.mp hproductive rule
      (Grammar.lt_of_shape_ne_general hshape)
    obtain ⟨calls, ⟨hlegal, _⟩, _⟩ := (machineOf_derivesExactly hg hshape).2 tree htree
    exact ⟨_, hlegal.1⟩
  refine ⟨?_, ?_, ?_, fun _ _ => Machine.mem_available_iff.symm, m.nodup_available, ?_,
    m.available_built, ?_⟩
  · cases hcase : m.shape with
    | flat => exact .inl rfl
    | leftRecursiveSequence => exact .inr rfl
    | general => exact absurd hcase hshape
  · intro hflat actions
    rw [Machine.accepts_iff_of_flat hflat]
    refine exists_congr fun i => and_congr_left fun _ => ?_
    constructor
    · rintro ⟨s, hs, _⟩
      exact (List.getElem?_eq_some_iff.mp hs).1
    · intro hi
      exact ⟨_, List.getElem?_eq_getElem hi,
        (kind_choice_iff hg hshape (List.getElem_mem hi)).mpr hflat⟩
  · intro hsequence actions
    exact Machine.accepts_iff_of_ne_flat (by simp [hsequence])
  · intro walk state hrun hbuilt
    exact Machine.exists_accepts_append (fun s hs => (source_target hg hshape hs).1) haccepts hrun
      hbuilt
  · intro walk action rest hrun
    exact Machine.accepts_append_of_built hrun rest

/-- A digit is chosen and built. A number begins with one of two digits and grows by them. -/
theorem synthesize_walks_nestedNumbers :
    let digit := machineOf (nestedNumbers.analysis 0) nestedNumbers.typeModel 0
    let number := machineOf (nestedNumbers.analysis 0) nestedNumbers.typeModel 1
    nestedNumbers.analyze none = .ok (nestedNumbers.analysis 0) ∧
      .incremental digit ∈ synthesize (nestedNumbers.analysis 0) nestedNumbers.typeModel ∧
      (∀ actions, digit.accepts actions = true ↔ ∃ i < 2, actions = [.step i, .build]) ∧
      .incremental number ∈ synthesize (nestedNumbers.analysis 0) nestedNumbers.typeModel ∧
      number.accepts [.step 1, .step 2, .step 3, .build] = true ∧
      ∃ rest, number.accepts ([.step 0, .step 3] ++ rest) = true := by
  intro digit number
  have h : nestedNumbers.analyze none = .ok (nestedNumbers.analysis 0) := by cbv
  have hshape : ∀ rule < 2, (nestedNumbers.analysis 0).shape rule ≠ .general := by decide +kernel
  have hdigit : .incremental digit ∈ synthesize (nestedNumbers.analysis 0) nestedNumbers.typeModel :=
    List.mem_map.mpr ⟨0, by decide, if_neg (hshape 0 (by decide))⟩
  have hnumber : .incremental number ∈ synthesize (nestedNumbers.analysis 0) nestedNumbers.typeModel :=
    List.mem_map.mpr ⟨1, by decide, if_neg (hshape 1 (by decide))⟩
  obtain ⟨_, hflat, _⟩ := synthesize_walks h hdigit
  obtain ⟨_, _, hsequence, _, _, hstuck, _⟩ := synthesize_walks h hnumber
  have hkind : ∀ i < 4, number.steps[i]?.map (·.kind) = some (if i < 2 then .base else .growth) := by
    decide +kernel
  have hhas : ∀ i < 4, number.HasKind (if i < 2 then .base else .growth) i := fun i hi =>
    Option.map_eq_some_iff.mp (hkind i hi)
  refine ⟨h, hdigit, hflat (by decide +kernel), hnumber, ?_, ?_⟩
  · refine (hsequence (by decide +kernel) _).mpr ⟨1, [2, 3], hhas 1 (by decide), ?_, rfl⟩
    simpa using ⟨hhas 2 (by decide), hhas 3 (by decide)⟩
  · exact hstuck [.step 0, .step 3] .growing (by decide +kernel) (by decide)

end TypedGrammar
