import Mathlib.Logic.Relation
import Mathlib.Data.List.Nodup
import TypedGrammar.Proofs.DerivationTree

/-!
# Reachable vertices

The search of a digraph finds exactly the vertices that a path of edges leads to. What it has visited
is closed under edges, since the successors of a visited vertex were pending after it. In the graph of
an analysis an edge leads from a rule to each rule that one of its variants holds a value of.
-/

namespace TypedGrammar

namespace Digraph

variable {g : Digraph} {a b x : Nat} {unseen pending : List Nat}

def Edge (g : Digraph) (a b : Nat) : Prop :=
  b ∈ g.successors a

def Path (g : Digraph) : Nat → Nat → Prop :=
  Relation.ReflTransGen g.Edge

lemma Edge.lt (h : g.Edge a b) : a < g.size := by
  by_contra ha
  have hnone : g.successorLists[a]? = none := List.getElem?_eq_none (Nat.le_of_not_lt ha)
  simp [Edge, successors, hnone] at h

lemma unreached_subset (hx : x ∈ g.unreached unseen pending) : x ∈ unseen := by
  fun_induction unreached g unseen pending with
  | case1 unseen => exact hx
  | case2 unseen a pending ha ih => exact List.mem_of_mem_erase (ih hx)
  | case3 unseen a pending ha ih => exact ih hx

/-- Only what a pending vertex leads to is visited. -/
lemma exists_path_of_not_mem_unreached (hx : x ∈ unseen) (hreached : x ∉ g.unreached unseen pending) :
    ∃ a ∈ pending, g.Path a x := by
  fun_induction unreached g unseen pending with
  | case1 unseen => exact absurd hx hreached
  | case2 unseen a pending ha ih =>
    by_cases hxa : x = a
    · subst hxa
      exact ⟨x, List.mem_cons_self, .refl⟩
    · have hrest : x ∈ unseen.erase a := (List.mem_erase_of_ne hxa).mpr hx
      obtain ⟨b, hb, hpath⟩ := ih hrest hreached
      rcases List.mem_append.mp hb with hb | hb
      · exact ⟨a, List.mem_cons_self, hpath.head hb⟩
      · exact ⟨b, List.mem_cons_of_mem a hb, hpath⟩
  | case3 unseen a pending ha ih =>
    obtain ⟨b, hb, hpath⟩ := ih hx hreached
    exact ⟨b, List.mem_cons_of_mem a hb, hpath⟩

lemma not_mem_unreached_of_mem_pending (hunseen : unseen.Nodup) (ha : a ∈ pending) :
    a ∉ g.unreached unseen pending := by
  fun_induction unreached g unseen pending with
  | case1 unseen => exact absurd ha List.not_mem_nil
  | case2 unseen b pending hb ih =>
    rcases List.mem_cons.mp ha with rfl | ha
    · intro h
      exact hunseen.not_mem_erase (unreached_subset h)
    · exact ih (hunseen.erase b) (List.mem_append_right _ ha)
  | case3 unseen b pending hb ih =>
    rcases List.mem_cons.mp ha with rfl | ha
    · intro h
      exact hb (unreached_subset h)
    · exact ih hunseen ha

/-- The successors of a vertex that is visited are visited as well. -/
lemma not_mem_unreached_of_edge (hunseen : unseen.Nodup) (hx : x ∈ unseen)
    (hreached : x ∉ g.unreached unseen pending) (hedge : g.Edge x b) :
    b ∉ g.unreached unseen pending := by
  fun_induction unreached g unseen pending with
  | case1 unseen => exact absurd hx hreached
  | case2 unseen a pending ha ih =>
    by_cases hxa : x = a
    · subst hxa
      exact not_mem_unreached_of_mem_pending (hunseen.erase x) (List.mem_append_left _ hedge)
    · exact ih (hunseen.erase a) ((List.mem_erase_of_ne hxa).mpr hx) hreached
  | case3 unseen a pending ha ih => exact ih hunseen hx hreached

lemma not_mem_unreached_of_path (hpath : g.Path a b) :
    b ∉ g.unreached (List.range g.size) [a] := by
  induction hpath with
  | refl => exact not_mem_unreached_of_mem_pending List.nodup_range (List.mem_singleton.mpr rfl)
  | tail _ hedge ih =>
    exact not_mem_unreached_of_edge List.nodup_range (List.mem_range.mpr hedge.lt) ih hedge

/-- The search from `a` reaches the vertices of the graph that a path from `a` leads to. -/
theorem reaches_iff : g.reaches a b = true ↔ b < g.size ∧ g.Path a b := by
  simp only [reaches, Bool.and_eq_true, decide_eq_true_eq]
  refine and_congr_right fun hb => ⟨fun hreached => ?_, not_mem_unreached_of_path⟩
  obtain ⟨c, hc, hpath⟩ := exists_path_of_not_mem_unreached (List.mem_range.mpr hb) hreached
  rwa [List.mem_singleton.mp hc] at hpath

end Digraph

/-! ### Graphs of rules -/

lemma RuleGraph.edge_ofParts_iff {parts : Alternative → List Part} {rules : List Rule}
    {index : Name → Option RuleId} {a b : RuleId} :
    (RuleGraph.ofParts parts rules index).Edge a b ↔ b < rules.length ∧
      ∃ r, rules[a]? = some r ∧ b ∈ r.targets index parts := by
  cases hr : rules[a]? <;> simp [Digraph.Edge, Digraph.successors, RuleGraph.ofParts, hr]

namespace Grammar

variable {g : Grammar}

lemma lt_of_find? {name : Name} {id : RuleId} (h : g.find? name = some id) : id < g.size :=
  (List.findIdx?_eq_some_iff_getElem.mp h).1

lemma reaches_analysis_iff {start a b : RuleId} :
    (g.analysis start).reaches a b = true ↔ b < g.size ∧ g.referenceGraphs.all.Path a b := by
  have hsize : g.referenceGraphs.all.size = g.size := List.length_map _
  rw [← hsize]
  exact Digraph.reaches_iff

/-- References lead from a rule to the rules that its variants hold values of. -/
lemma edge_of_mem_ruleTerms {owner id : RuleId} {v : Variant} (hv : v ∈ g.typeModel.variants owner)
    (hid : id ∈ v.ruleTerms) : g.referenceGraphs.all.Edge owner id := by
  obtain ⟨i, hi⟩ := List.mem_iff_getElem?.mp hv
  have hterms := g.getElem?_variants_typeModel owner i
  rw [hi, Option.map_some] at hterms
  obtain ⟨a, ha, hterms⟩ := Option.map_eq_some_iff.mp hterms.symm
  obtain ⟨r, hr, ha⟩ := Option.bind_eq_some_iff.mp ha
  rw [Variant.ruleTerms, ← hterms, rules_terms] at hid
  obtain ⟨name, hname, hfind⟩ := List.mem_filterMap.mp hid
  obtain ⟨part, hpart, hreference⟩ := List.mem_filterMap.mp hname
  refine RuleGraph.edge_ofParts_iff.mpr ⟨lt_of_find? hfind, r, hr, ?_⟩
  refine List.mem_flatMap.mpr ⟨a, List.mem_of_getElem? ha, ?_⟩
  exact List.mem_filterMap.mpr ⟨part, hpart, by rw [hreference]; exact hfind⟩

end Grammar

end TypedGrammar
