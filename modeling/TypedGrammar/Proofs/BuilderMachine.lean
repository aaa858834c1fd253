import Mathlib.Data.List.Basic
import TypedGrammar.Builder.Synthesis

/-!
# Transitions of builder machines

The table of a machine is deterministic, so `next?` is membership in it. A walk that is accepted
ends with the only build action, right after the steps that lead to the ready state.
-/

namespace TypedGrammar

lemma find?_eq_some_of_unique {α : Type} {l : List α} {p : α → Bool} {x : α} (hx : x ∈ l)
    (hp : p x = true) (hunique : ∀ y ∈ l, p y = true → y = x) : l.find? p = some x := by
  cases h : l.find? p with
  | none => exact absurd hp (by simpa using List.find?_eq_none.mp h x hx)
  | some y => rw [hunique y (List.mem_of_find?_eq_some h) (List.find?_some h)]

namespace Machine

lemma mem_transitions {m : Machine} {t : Transition} :
    t ∈ m.transitions ↔
      (∃ i s, m.steps[i]? = some s ∧ t = ⟨s.kind.source, .step i, s.kind.target⟩) ∨
        t = ⟨m.ready, .build, .built⟩ := by
  simp only [transitions, List.mem_append, List.mem_map, List.mem_singleton, Prod.exists,
    List.mk_mem_zipIdx_iff_getElem?]
  constructor
  · rintro (⟨s, i, hs, rfl⟩ | rfl)
    · exact .inl ⟨i, s, hs, rfl⟩
    · exact .inr rfl
  · rintro (⟨i, s, hs, rfl⟩ | rfl)
    · exact .inl ⟨s, i, hs, rfl⟩
    · exact .inr rfl

/-- An action leads from one state to one state only. -/
theorem transitions_deterministic {m : Machine} {t u : Transition} (ht : t ∈ m.transitions)
    (hu : u ∈ m.transitions) (haction : t.action = u.action) : t = u := by
  rcases mem_transitions.mp ht with ⟨i, s, hs, rfl⟩ | rfl <;>
    rcases mem_transitions.mp hu with ⟨j, s', hs', rfl⟩ | rfl
  · cases haction
    cases hs.symm.trans hs'
    rfl
  · cases haction
  · cases haction
  · rfl

theorem next?_eq_some_iff {m : Machine} {state state' : BuilderState} {action : Action} :
    m.next? state action = some state' ↔ ⟨state, action, state'⟩ ∈ m.transitions := by
  rw [next?, Option.map_eq_some_iff]
  constructor
  · rintro ⟨t, ht, rfl⟩
    obtain ⟨rfl, rfl⟩ : t.source = state ∧ t.action = action := by simpa using List.find?_some ht
    exact List.mem_of_find?_eq_some ht
  · intro h
    refine ⟨_, find?_eq_some_of_unique h (by simp) fun u hu hp => ?_, rfl⟩
    exact transitions_deterministic hu h (by simpa using hp : _ ∧ u.action = action).2

lemma next?_step_iff {m : Machine} {state state' : BuilderState} {i : Nat} :
    m.next? state (.step i) = some state' ↔
      ∃ s, m.steps[i]? = some s ∧ s.kind.source = state ∧ s.kind.target = state' := by
  rw [next?_eq_some_iff, mem_transitions]
  constructor
  · rintro (⟨j, s, hs, h⟩ | h)
    · cases h
      exact ⟨s, hs, rfl, rfl⟩
    · cases h
  · rintro ⟨s, hs, rfl, rfl⟩
    exact .inl ⟨i, s, hs, rfl⟩

lemma next?_build_iff {m : Machine} {state state' : BuilderState} :
    m.next? state .build = some state' ↔ state = m.ready ∧ state' = .built := by
  rw [next?_eq_some_iff, mem_transitions]
  constructor
  · rintro (⟨j, s, hs, h⟩ | h)
    · cases h
    · cases h
      exact ⟨rfl, rfl⟩
  · rintro ⟨rfl, rfl⟩
    exact .inr rfl

/-- The state after the actions, if none of them is refused. -/
def run? (m : Machine) (actions : List Action) : Option BuilderState :=
  actions.foldlM m.next? .initial

lemma run?_append_singleton {m : Machine} {actions : List Action} {action : Action}
    {state : BuilderState} :
    m.run? (actions ++ [action]) = some state ↔
      ∃ before, m.run? actions = some before ∧ m.next? before action = some state := by
  simp [run?, List.foldlM_append, Option.bind_eq_some_iff]

lemma run?_eq_initial {m : Machine} {actions : List Action} (h : m.run? actions = some .initial) :
    actions = [] := by
  rcases List.eq_nil_or_concat' actions with rfl | ⟨before, action, rfl⟩
  · rfl
  · obtain ⟨state, _, hnext⟩ := run?_append_singleton.mp h
    cases action with
    | step i =>
      obtain ⟨s, _, _, htarget⟩ := next?_step_iff.mp hnext
      cases hkind : s.kind <;> simp [hkind, StepKind.target] at htarget
    | build => cases (next?_build_iff.mp hnext).2

/-- The accepted walks are those that end with the build action once the machine is ready. -/
theorem accepts_iff {m : Machine} {actions : List Action} :
    m.accepts actions = true ↔
      ∃ steps, actions = steps ++ [.build] ∧ m.run? steps = some m.ready := by
  have haccepts : m.accepts actions = true ↔ m.run? actions = some .built := by
    simp [accepts, run?]
  rw [haccepts]
  constructor
  · intro h
    rcases List.eq_nil_or_concat' actions with rfl | ⟨before, action, rfl⟩
    · cases h
    · obtain ⟨state, hrun, hnext⟩ := run?_append_singleton.mp h
      cases action with
      | step i =>
        obtain ⟨s, _, _, htarget⟩ := next?_step_iff.mp hnext
        cases hkind : s.kind <;> simp [hkind, StepKind.target] at htarget
      | build =>
        obtain ⟨rfl, _⟩ := next?_build_iff.mp hnext
        exact ⟨before, rfl, hrun⟩
  · rintro ⟨steps, rfl, hrun⟩
    exact run?_append_singleton.mpr ⟨m.ready, hrun, next?_build_iff.mpr ⟨rfl, rfl⟩⟩

end Machine

end TypedGrammar
