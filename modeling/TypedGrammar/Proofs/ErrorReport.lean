import Mathlib.Data.List.Sort
import Mathlib.Data.Prod.Basic
import Mathlib.Tactic.Lemma

/-!
# Reports of errors

A report lists one error for each place where something is wrong, in the order of the places. What is
wrong at each place determines the report. Lists that are made place by place are reports of what
they say of each place.
-/

namespace TypedGrammar

variable {ι κ α ε : Type}

/-- The errors stand one for each place that has one, in the order of the places. -/
def Reports (before : ι → ι → Prop) (errorAt : ι → ε → Prop) (errors : List ε) : Prop :=
  ∃ places : List ι, places.Pairwise before ∧ (∀ i, i ∈ places ↔ ∃ e, errorAt i e) ∧
    List.Forall₂ errorAt places errors

namespace Reports

variable {before : ι → ι → Prop} {errorAt errorAt' : ι → ε → Prop} {errors errors' : List ε}

/-- Where no place has two errors there is only one report. -/
theorem unique [Std.Asymm before] (hone : ∀ i e e', errorAt i e → errorAt i e' → e = e')
    (h : Reports before errorAt errors) (h' : Reports before errorAt errors') :
    errors = errors' := by
  obtain ⟨places, hsorted, hplaces, hat⟩ := h
  obtain ⟨places', hsorted', hplaces', hat'⟩ := h'
  have hsame : places = places' := by
    apply hsorted.eq_of_mem_iff hsorted'
    intro i
    rw [hplaces, hplaces']
  subst hsame
  exact List.right_unique_forall₂' (fun i e e' => hone i e e') hat hat'

lemma congr (h : Reports before errorAt errors) (hat : ∀ i e, errorAt i e ↔ errorAt' i e) :
    Reports before errorAt' errors := by
  have hsame : errorAt = errorAt' := by
    funext i e
    exact propext (hat i e)
  rwa [← hsame]

lemma eq_nil_iff (h : Reports before errorAt errors) : errors = [] ↔ ∀ i e, ¬ errorAt i e := by
  obtain ⟨places, _, hplaces, hat⟩ := h
  constructor
  · rintro rfl i e he
    obtain rfl := List.forall₂_nil_right_iff.mp hat
    exact absurd ((hplaces i).mpr ⟨e, he⟩) List.not_mem_nil
  · intro hnone
    have hempty : places = [] := by
      apply List.eq_nil_iff_forall_not_mem.mpr
      intro i hi
      obtain ⟨e, he⟩ := (hplaces i).mp hi
      exact hnone i e he
    subst hempty
    exact List.forall₂_nil_left_iff.mp hat

lemma nil (hnone : ∀ i e, ¬ errorAt i e) : Reports before errorAt [] :=
  ⟨[], .nil, fun i => by simp [hnone i], .nil⟩

lemma append (h : Reports before errorAt errors) (h' : Reports before errorAt' errors')
    (hbefore : ∀ i j e e', errorAt i e → errorAt' j e' → before i j) :
    Reports before (fun i e => errorAt i e ∨ errorAt' i e) (errors ++ errors') := by
  obtain ⟨places, hsorted, hplaces, hat⟩ := h
  obtain ⟨places', hsorted', hplaces', hat'⟩ := h'
  refine ⟨places ++ places', ?_, ?_, ?_⟩
  · refine List.pairwise_append.mpr ⟨hsorted, hsorted', ?_⟩
    intro i hi j hj
    obtain ⟨e, he⟩ := (hplaces i).mp hi
    obtain ⟨e', he'⟩ := (hplaces' j).mp hj
    exact hbefore i j e e' he he'
  · intro i
    rw [List.mem_append, hplaces, hplaces', exists_or]
  · exact List.rel_append (hat.imp fun _ _ => .inl) (hat'.imp fun _ _ => .inr)

/-- A report of places is one of other places that stand for them in the same order. -/
lemma map (before' : κ → κ → Prop) (f : ι → κ)
    (hf : ∀ i j, before i j → before' (f i) (f j)) (h : Reports before errorAt errors) :
    Reports before' (fun k e => ∃ i, f i = k ∧ errorAt i e) errors := by
  obtain ⟨places, hsorted, hplaces, hat⟩ := h
  refine ⟨places.map f, List.pairwise_map.mpr (hsorted.imp (hf _ _)), ?_, ?_⟩
  · intro k
    constructor
    · intro hk
      obtain ⟨i, hi, rfl⟩ := List.mem_map.mp hk
      obtain ⟨e, he⟩ := (hplaces i).mp hi
      exact ⟨e, i, rfl, he⟩
    · rintro ⟨e, i, rfl, he⟩
      exact List.mem_map_of_mem ((hplaces i).mpr ⟨e, he⟩)
  · rw [List.forall₂_map_left_iff]
    exact hat.imp fun i e he => ⟨i, rfl, he⟩

/-- Errors found element by element, each with its own places. -/
lemma flatMap {f : α → List ε} {errorIn : α → ι → ε → Prop} (l : List α)
    (h : ∀ x ∈ l, Reports before (errorIn x) (f x)) :
    Reports (Prod.Lex (· < ·) before) (fun (i : ℕ × ι) e => ∃ x, l[i.1]? = some x ∧ errorIn x i.2 e)
      (l.flatMap f) := by
  induction l with
  | nil => exact nil (by simp)
  | cons x l ih =>
    have hfirst := (h x (by simp)).map (Prod.Lex (· < ·) before) (fun i => (0, i))
      fun i j hij => .right 0 hij
    have hrest := (ih fun y hy => h y (by simp [hy])).map (Prod.Lex (· < ·) before)
      (fun i => (i.1 + 1, i.2)) ?_
    · rw [List.flatMap_cons]
      refine (hfirst.append hrest ?_).congr ?_
      · rintro i j e e' ⟨_, rfl, _⟩ ⟨_, rfl, _⟩
        exact .left _ _ (Nat.succ_pos _)
      · rintro ⟨_ | i, p⟩ e <;> simp
    · rintro ⟨i, p⟩ ⟨j, q⟩ hij
      rcases Prod.lex_iff.mp hij with hij | ⟨rfl, hpq⟩
      · exact .left _ _ (Nat.succ_lt_succ hij)
      · exact .right _ hpq

/-- Errors found element by element, at most one for each. -/
lemma filterMap (f : α → Option ε) (l : List α) :
    Reports (· < ·) (fun (i : ℕ) e => ∃ x, l[i]? = some x ∧ f x = some e) (l.filterMap f) := by
  have hone : ∀ x, Reports (fun _ _ : Unit => False) (fun _ e => f x = some e) (f x).toList := by
    intro x
    cases f x with
    | none => exact nil (by simp)
    | some e => exact ⟨[()], by simp, by simp, by simp⟩
  have hmap := (flatMap l fun x _ => hone x).map (· < ·) Prod.fst ?_
  · rw [List.filterMap_eq_flatMap_toList]
    exact hmap.congr fun i e => by simp
  · intro i j hij
    exact (Prod.lex_iff.mp hij).resolve_right fun h => h.2

end Reports

end TypedGrammar
