import Mathlib.Order.Defs.Unbundled
import TypedGrammar.Proofs.ReachableVertex

/-!
# The refinement hierarchy

The type model decides one alternative after the other whether it becomes a refinement, and looks only
at the refinements before it. `Decides` is that run. Each decision keeps the hierarchy free of cycles,
so a bare reference that was left out closes a cycle in the finished hierarchy as well, and one that
was taken closes none.
-/

namespace TypedGrammar

/-- Refinements in any number of steps lead from the one rule to the other. -/
def Leads (refinements : List (RuleId × RuleId)) : RuleId → RuleId → Prop :=
  Relation.ReflTransGen fun sub sup => (sub, sup) ∈ refinements

/-- The refinements relate rules below `size` and close no cycle. -/
structure Hierarchical (size : Nat) (refinements : List (RuleId × RuleId)) : Prop where
  bounded : ∀ edge ∈ refinements, edge.1 < size ∧ edge.2 < size
  irreflexive : ∀ id, (id, id) ∉ refinements
  antisymmetric : ∀ a b, Leads refinements a b → Leads refinements b a → a = b

section Hierarchy

variable {refinements refinements' : List (RuleId × RuleId)} {size : Nat} {a b u v : RuleId}

lemma Leads.mono (hsubset : refinements ⊆ refinements') (h : Leads refinements a b) :
    Leads refinements' a b :=
  Relation.ReflTransGen.mono (fun _ _ hedge => hsubset hedge) a b h

/-- A path that uses one more refinement goes to its beginning before it uses it first, and on from
its end after it uses it last. -/
lemma leads_append_singleton_iff :
    Leads (refinements ++ [(u, v)]) a b ↔
      Leads refinements a b ∨ Leads refinements a u ∧ Leads refinements v b := by
  constructor
  · intro h
    induction h with
    | refl => exact .inl .refl
    | tail _ hedge ih =>
      rcases List.mem_append.mp hedge with hedge | hedge
      · rcases ih with hpath | ⟨hfirst, hlast⟩
        · exact .inl (hpath.tail hedge)
        · exact .inr ⟨hfirst, hlast.tail hedge⟩
      · obtain ⟨rfl, rfl⟩ := Prod.mk.inj (List.mem_singleton.mp hedge)
        rcases ih with hpath | ⟨hfirst, _⟩
        · exact .inr ⟨hpath, .refl⟩
        · exact .inr ⟨hfirst, .refl⟩
  · rintro (hpath | ⟨hfirst, hlast⟩)
    · exact hpath.mono (List.subset_append_left _ _)
    · have hedge : (u, v) ∈ refinements ++ [(u, v)] := by simp
      exact ((hfirst.mono (List.subset_append_left _ _)).tail hedge).trans
        (hlast.mono (List.subset_append_left _ _))

lemma hierarchical_nil (size : Nat) : Hierarchical size [] where
  bounded := by simp
  irreflexive := by simp
  antisymmetric := by
    intro a b h _
    induction h with
    | refl => rfl
    | tail _ hedge => exact absurd hedge List.not_mem_nil

/-- A refinement whose end does not lead to its beginning closes no cycle. -/
lemma Hierarchical.append_singleton (h : Hierarchical size refinements) (hu : u < size)
    (hv : v < size) (hne : u ≠ v) (hback : ¬ Leads refinements v u) :
    Hierarchical size (refinements ++ [(u, v)]) where
  bounded := by
    intro edge hedge
    rcases List.mem_append.mp hedge with hedge | hedge
    · exact h.bounded edge hedge
    · obtain rfl := List.mem_singleton.mp hedge
      exact ⟨hu, hv⟩
  irreflexive := by
    intro id hid
    rcases List.mem_append.mp hid with hid | hid
    · exact h.irreflexive id hid
    · obtain ⟨rfl, rfl⟩ := Prod.mk.inj (List.mem_singleton.mp hid)
      exact hne rfl
  antisymmetric := by
    intro a b hab hba
    rw [leads_append_singleton_iff] at hab hba
    rcases hab with hab | ⟨hau, hvb⟩ <;> rcases hba with hba | ⟨hbu, hva⟩
    · exact h.antisymmetric a b hab hba
    · exact absurd (hva.trans (hab.trans hbu)) hback
    · exact absurd (hvb.trans (hba.trans hau)) hback
    · exact absurd (hvb.trans hbu) hback

lemma edge_ofRefinements_iff (h : Hierarchical size refinements) :
    (Digraph.ofRefinements size refinements).Edge a b ↔ (a, b) ∈ refinements := by
  rw [Digraph.Edge, Digraph.ofRefinements, Digraph.mem_successors_ofEdges, List.contains_iff_mem]
  constructor
  · exact fun hedge => hedge.2.2
  · exact fun hedge => ⟨(h.bounded _ hedge).1, (h.bounded _ hedge).2, hedge⟩

lemma reaches_ofRefinements_iff (h : Hierarchical size refinements) :
    (Digraph.ofRefinements size refinements).reaches a b = true ↔
      b < size ∧ Leads refinements a b := by
  have hedges : (Digraph.ofRefinements size refinements).Edge =
      fun sub sup => (sub, sup) ∈ refinements := by
    funext sub sup
    exact propext (edge_ofRefinements_iff h)
  have hsize : (Digraph.ofRefinements size refinements).size = size := Digraph.size_ofEdges _ _
  rw [Digraph.reaches_iff, hsize, Digraph.Path, hedges, Leads]

end Hierarchy

namespace Grammar

/-! ### Decisions -/

lemma bareReference?_eq_some_iff {g : Grammar} {a : Alternative} {id : RuleId} :
    g.bareReference? a = some id ↔ g.terms a = [.rule id] := by
  unfold bareReference?
  split
  · rename_i sub hterms
    simp [hterms]
  · rename_i hterms
    simpa using hterms id

lemma lt_of_terms_eq {g : Grammar} {a : Alternative} {id : RuleId} (h : g.terms a = [.rule id]) :
    id < g.size := by
  have hrules := g.rules_terms a
  rw [h] at hrules
  have hmem : id ∈ (Alternative.references a).filterMap g.find? := by simp [← hrules, Term.rules,
    Term.rule?]
  obtain ⟨name, _, hname⟩ := List.mem_filterMap.mp hmem
  exact lt_of_find? hname

lemma refining?_eq_some_iff {g : Grammar} {refinements : List (RuleId × RuleId)}
    (h : Hierarchical g.size refinements) {owner sub : RuleId} {a : Alternative} :
    g.refining? refinements owner a = some sub ↔
      g.terms a = [.rule sub] ∧ sub ≠ owner ∧ ¬ Leads refinements owner sub := by
  rw [refining?, Option.filter_eq_some_iff, bareReference?_eq_some_iff]
  refine and_congr_right fun hterms => ?_
  have hreaches := reaches_ofRefinements_iff h (a := owner) (b := sub)
  simp only [lt_of_terms_eq hterms, true_and] at hreaches
  rw [← hreaches]
  simp

/-- The variants, each with its owner, are decided one after the other, which takes the refinements
from `before` to `after`. -/
inductive Decides (g : Grammar) :
    List (RuleId × RuleId) → List (RuleId × Variant) → List (RuleId × RuleId) → Prop where
  | nil (refinements : List (RuleId × RuleId)) : g.Decides refinements [] refinements
  | cons {before after : List (RuleId × RuleId)} {owner : RuleId} {a : Alternative} {v : Variant}
      {rest : List (RuleId × Variant)} (howner : owner < g.size) (hterms : v.terms = g.terms a)
      (hrefines : v.refines = g.refining? before owner a)
      (hrest : g.Decides (before ++ (v.refines.map fun sub => (sub, owner)).toList) rest after) :
      g.Decides before ((owner, v) :: rest) after

variable {g : Grammar} {before middle after : List (RuleId × RuleId)}
  {decided rest : List (RuleId × Variant)}

lemma Decides.append (h : g.Decides before decided middle) (hrest : g.Decides middle rest after) :
    g.Decides before (decided ++ rest) after := by
  induction h with
  | nil refinements => exact hrest
  | cons howner hterms hrefines _ ih => exact .cons howner hterms hrefines (ih hrest)

lemma decides_variants {owner : RuleId} (howner : owner < g.size) (ownerName : Name)
    (taken : NameSet) (before : List (RuleId × RuleId)) (alternatives : List Alternative) :
    let (variants, after) := g.variants owner ownerName taken before alternatives
    g.Decides before (variants.map fun v => (owner, v)) after := by
  induction alternatives generalizing taken before with
  | nil => exact .nil before
  | cons a alternatives ih => exact .cons (a := a) howner rfl rfl (ih _ _)

lemma decides_capabilities (before : List (RuleId × RuleId)) (rules : List (Rule × RuleId))
    (hrules : ∀ r ∈ rules, r.2 < g.size) :
    let (capabilities, after) := g.capabilities before rules
    g.Decides before (capabilities.flatMap fun c => c.variants.map fun v => (c.rule, v)) after := by
  induction rules generalizing before with
  | nil => exact .nil before
  | cons r rules ih =>
    obtain ⟨hr, hrest⟩ := List.forall_mem_cons.mp hrules
    exact (decides_variants hr r.1.name .empty before r.1.alternatives).append (ih _ hrest)

/-- One decision keeps the hierarchy free of cycles. -/
lemma hierarchical_decision {owner : RuleId} {a : Alternative} {refines : Option RuleId}
    (howner : owner < g.size) (hrefines : refines = g.refining? before owner a)
    (h : Hierarchical g.size before) :
    Hierarchical g.size (before ++ (refines.map fun sub => (sub, owner)).toList) := by
  cases refines with
  | none => simpa using h
  | some sub =>
    obtain ⟨hterms, hne, hback⟩ := (refining?_eq_some_iff h).mp hrefines.symm
    exact h.append_singleton (lt_of_terms_eq hterms) howner hne hback

theorem Decides.hierarchical (h : g.Decides before decided after)
    (hbefore : Hierarchical g.size before) : Hierarchical g.size after := by
  induction h with
  | nil refinements => exact hbefore
  | cons howner _ hrefines _ ih => exact ih (hierarchical_decision howner hrefines hbefore)

/-- The refinements afterwards are those before and those of the variants. -/
theorem Decides.mem_iff (h : g.Decides before decided after) {sub sup : RuleId} :
    (sub, sup) ∈ after ↔
      (sub, sup) ∈ before ∨ ∃ v, (sup, v) ∈ decided ∧ v.refines = some sub := by
  induction h with
  | nil refinements => simp
  | @cons before after owner a v rest _ _ _ _ ih =>
    rw [ih, List.mem_append, or_assoc]
    refine or_congr_right ?_
    simp only [Option.mem_toList, Option.map_eq_some_iff, Prod.mk.injEq, List.mem_cons]
    constructor
    · rintro (⟨_, hv, rfl, rfl⟩ | ⟨w, hw, hrefines⟩)
      · exact ⟨v, .inl ⟨rfl, rfl⟩, hv⟩
      · exact ⟨w, .inr hw, hrefines⟩
    · rintro ⟨w, ⟨rfl, rfl⟩ | hw, hrefines⟩
      · exact .inl ⟨sub, hrefines, rfl, rfl⟩
      · exact .inr ⟨w, hw, hrefines⟩

lemma Decides.subset (h : g.Decides before decided after) : before ⊆ after := by
  rintro ⟨sub, sup⟩ hedge
  exact h.mem_iff.mpr (.inl hedge)

lemma Decides.terms_eq (h : g.Decides before decided after) (hbefore : Hierarchical g.size before)
    {owner sub : RuleId} {v : Variant} (hv : (owner, v) ∈ decided) (hrefines : v.refines = some sub) :
    v.terms = [.rule sub] := by
  induction h with
  | nil refinements => cases hv
  | cons howner hterms hdecision _ ih =>
    rcases List.mem_cons.mp hv with heq | hv
    · cases heq
      rw [hterms]
      exact ((refining?_eq_some_iff hbefore).mp (hdecision.symm.trans hrefines)).1
    · exact ih (hierarchical_decision howner hdecision hbefore) hv

/-- A bare reference is left out exactly when it closes a cycle in the end. One that was taken does
not, because it is itself in the hierarchy, which has no cycle. -/
theorem Decides.refines_eq_none_iff (h : g.Decides before decided after)
    (hbefore : Hierarchical g.size before) {owner sub : RuleId} {v : Variant}
    (hv : (owner, v) ∈ decided) (hterms : v.terms = [.rule sub]) :
    v.refines = none ↔ sub = owner ∨ Leads after owner sub := by
  have hafter := h.hierarchical hbefore
  constructor
  · intro hnone
    induction h with
    | nil refinements => cases hv
    | cons howner hterms' hdecision hrest ih =>
      rcases List.mem_cons.mp hv with heq | hv
      · cases heq
        by_contra hcycle
        obtain ⟨hne, hback⟩ := not_or.mp hcycle
        -- Later decisions only add refinements, so there was no way back when this one was made.
        have hsome := (refining?_eq_some_iff hbefore).mpr ⟨hterms' ▸ hterms, hne, fun hpath =>
          hback (hpath.mono fun _ hedge => hrest.subset (List.mem_append_left _ hedge))⟩
        rw [← hdecision, hnone] at hsome
        cases hsome
      · exact ih (hierarchical_decision howner hdecision hbefore) hv hafter
  · intro hcycle
    cases hrefines : v.refines with
    | none => rfl
    | some sub' =>
      have hsub := h.terms_eq hbefore hv hrefines
      rw [hterms] at hsub
      cases hsub
      have hedge : (sub, owner) ∈ after := h.mem_iff.mpr (.inr ⟨v, hv, hrefines⟩)
      have heq : sub = owner := hcycle.elim id fun hback =>
        hafter.antisymmetric sub owner (.single hedge) hback
      rw [heq] at hedge
      exact absurd hedge (hafter.irreflexive owner)

/-! ### The finished model -/

lemma mem_refinements_iff {m : TypeModel} {sub sup : RuleId} :
    (sub, sup) ∈ m.refinements ↔ m.hierarchy.Edge sub sup := by
  simp only [TypeModel.refinements, TypeModel.supertypes, List.mem_flatMap, List.mem_range,
    List.mem_map, Prod.mk.injEq]
  constructor
  · rintro ⟨_, _, _, hedge, rfl, rfl⟩
    exact hedge
  · intro hedge
    exact ⟨sub, hedge.lt, sup, hedge, rfl, rfl⟩

lemma rule_capabilities (g : Grammar) (before : List (RuleId × RuleId))
    (rules : List (Rule × RuleId)) :
    (g.capabilities before rules).1.map (·.rule) = rules.map Prod.snd := by
  induction rules generalizing before with
  | nil => rfl
  | cons r rules ih => rw [capabilities, List.map_cons, ih, List.map_cons]

/-- There is a capability for each rule, in their order. -/
lemma map_rule_capabilities (g : Grammar) :
    g.typeModel.capabilities.map (·.rule) = List.range g.size := by
  have hrules := g.rule_capabilities [] g.rules.zipIdx
  rw [List.zipIdx_map_snd, ← List.range_eq_range'] at hrules
  exact hrules

lemma rule_of_getElem?_capabilities {i : Nat} {c : Capability}
    (hc : g.typeModel.capabilities[i]? = some c) : c.rule = i := by
  have hmap := congrArg (·[i]?) g.map_rule_capabilities
  simp only [List.getElem?_map, hc, Option.map_some] at hmap
  obtain ⟨_, hrule⟩ := List.getElem?_eq_some_iff.mp hmap.symm
  rw [← hrule, List.getElem_range]

lemma variants_typeModel_of_mem {c : Capability} (hc : c ∈ g.typeModel.capabilities) :
    g.typeModel.variants c.rule = c.variants := by
  obtain ⟨i, hi⟩ := List.mem_iff_getElem?.mp hc
  rw [TypeModel.variants, rule_of_getElem?_capabilities hi, hi]
  rfl

lemma mem_variants_typeModel_iff {owner : RuleId} {v : Variant} :
    v ∈ g.typeModel.variants owner ↔
      ∃ c : Capability, c ∈ g.typeModel.capabilities ∧ c.rule = owner ∧ v ∈ c.variants := by
  constructor
  · intro hv
    rw [TypeModel.variants] at hv
    cases hc : g.typeModel.capabilities[owner]? with
    | none => simp [hc] at hv
    | some c =>
      exact ⟨c, List.mem_of_getElem? hc, rule_of_getElem?_capabilities hc, by simpa [hc] using hv⟩
  · rintro ⟨c, hc, rfl, hv⟩
    rwa [variants_typeModel_of_mem hc]

/-- The type model is the outcome of a run of decisions on its variants. -/
lemma exists_decides_typeModel (g : Grammar) : ∃ decided refinements,
    g.Decides [] decided refinements ∧ Hierarchical g.size refinements ∧
      g.typeModel.hierarchy = .ofRefinements g.size refinements ∧
        ∀ owner v, (owner, v) ∈ decided ↔ v ∈ g.typeModel.variants owner := by
  have hrules : ∀ r ∈ g.rules.zipIdx, r.2 < g.size := by
    intro r hr
    exact (List.getElem?_eq_some_iff.mp (List.mem_zipIdx_iff_getElem?.mp hr)).1
  have hdecides := g.decides_capabilities [] g.rules.zipIdx hrules
  refine ⟨_, _, hdecides, hdecides.hierarchical (hierarchical_nil g.size), rfl, fun owner v => ?_⟩
  rw [mem_variants_typeModel_iff]
  simp only [List.mem_flatMap, List.mem_map, Prod.mk.injEq]
  constructor
  · rintro ⟨c, hc, _, hv, rfl, rfl⟩
    exact ⟨c, hc, rfl, hv⟩
  · rintro ⟨c, hc, rfl, hv⟩
    exact ⟨c, hc, v, hv, rfl, rfl⟩

lemma mem_refinements_typeModel_iff {sub sup : RuleId} :
    (sub, sup) ∈ g.typeModel.refinements ↔
      ∃ v ∈ g.typeModel.variants sup, v.refines = some sub := by
  obtain ⟨decided, refinements, hdecides, hafter, hhierarchy, hdecided⟩ :=
    g.exists_decides_typeModel
  rw [mem_refinements_iff, hhierarchy, edge_ofRefinements_iff hafter, hdecides.mem_iff]
  simp [hdecided]

lemma terms_of_refines {owner sub : RuleId} {v : Variant} (hv : v ∈ g.typeModel.variants owner)
    (hrefines : v.refines = some sub) : v.terms = [.rule sub] := by
  obtain ⟨decided, refinements, hdecides, _, _, hdecided⟩ := g.exists_decides_typeModel
  exact hdecides.terms_eq (hierarchical_nil g.size) ((hdecided owner v).mpr hv) hrefines

/-- The rules that a rule refines are those of the grammar that refinements lead to. -/
theorem isSubtype_typeModel_iff {a b : RuleId} :
    g.typeModel.isSubtype a b = true ↔ b < g.size ∧ Leads g.typeModel.refinements a b := by
  obtain ⟨decided, refinements, _, hafter, hhierarchy, _⟩ := g.exists_decides_typeModel
  have hsame : Leads g.typeModel.refinements = Leads refinements := by
    unfold Leads
    congr 1
    funext sub sup
    rw [mem_refinements_iff, hhierarchy, edge_ofRefinements_iff hafter]
  rw [TypeModel.isSubtype, hhierarchy, reaches_ofRefinements_iff hafter, hsame]

lemma isSubtype_antisymm {a b : RuleId} (hab : g.typeModel.isSubtype a b = true)
    (hba : g.typeModel.isSubtype b a = true) : a = b := by
  obtain ⟨decided, refinements, _, hafter, hhierarchy, _⟩ := g.exists_decides_typeModel
  rw [TypeModel.isSubtype, hhierarchy, reaches_ofRefinements_iff hafter] at hab hba
  exact hafter.antisymmetric a b hab.2 hba.2

lemma refines_eq_none_iff {owner sub : RuleId} {v : Variant}
    (hv : v ∈ g.typeModel.variants owner) (hterms : v.terms = [.rule sub]) :
    v.refines = none ↔ sub = owner ∨ g.typeModel.isSubtype owner sub = true := by
  obtain ⟨decided, refinements, hdecides, hafter, hhierarchy, hdecided⟩ :=
    g.exists_decides_typeModel
  rw [hdecides.refines_eq_none_iff (hierarchical_nil g.size) ((hdecided owner v).mpr hv) hterms,
    TypeModel.isSubtype, hhierarchy, reaches_ofRefinements_iff hafter]
  constructor
  · rintro (heq | hpath)
    · exact .inl heq
    · rcases hpath.cases_tail with heq | ⟨_, _, hedge⟩
      · exact .inl heq
      · exact .inr ⟨(hafter.bounded _ hedge).2, hpath⟩
  · rintro (heq | ⟨_, hpath⟩)
    · exact .inl heq
    · exact .inr hpath

/-- The refinement hierarchy is acyclic and maximal. In the type model of a grammar a rule is a
subtype of the rules that refinements lead to, and that is a partial order. The refinements are those
of the variants that were taken, each of which consists of the refining rule, and a variant that
consists of one rule was left out exactly when it would close a cycle in the finished hierarchy. -/
theorem typeModel_hierarchy (g : Grammar) :
    let m := g.typeModel
    (∀ x y : Fin g.size, m.isSubtype x y = true ↔ Leads m.refinements x y) ∧
    IsPartialOrder (Fin g.size) (fun x y => m.isSubtype x y = true) ∧
    (∀ sub sup, (sub, sup) ∈ m.refinements ↔ ∃ v ∈ m.variants sup, v.refines = some sub) ∧
    (∀ owner, ∀ v ∈ m.variants owner, ∀ sub, v.refines = some sub → v.terms = [.rule sub]) ∧
    ∀ owner, ∀ v ∈ m.variants owner, ∀ sub, v.terms = [.rule sub] →
      (v.refines = none ↔ sub = owner ∨ m.isSubtype owner sub = true) := by
  intro m
  have hsubtype : ∀ x y : Fin g.size, m.isSubtype x y = true ↔ Leads m.refinements x y := by
    intro x y
    rw [isSubtype_typeModel_iff]
    exact and_iff_right y.isLt
  refine ⟨hsubtype, ?_, fun _ _ => mem_refinements_typeModel_iff, ?_, ?_⟩
  · refine { refl := fun x => ?_, trans := fun x y z hxy hyz => ?_, antisymm := fun x y hxy hyx => ?_ }
    · exact (hsubtype x x).mpr .refl
    · rw [hsubtype] at hxy hyz ⊢
      exact hxy.trans hyz
    · exact Fin.ext (isSubtype_antisymm hxy hyx)
  · intro owner v hv sub hrefines
    exact terms_of_refines hv hrefines
  · intro owner v hv sub hterms
    exact refines_eq_none_iff hv hterms

end Grammar

end TypedGrammar
