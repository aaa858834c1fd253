import Mathlib.Data.List.Forall2
import Mathlib.Tactic.Lemma
import TypedGrammar.Analysis.Basic
import TypedGrammar.Model.Basic

/-!
# Derivation trees

A derivation tree of a rule is a choice of one of its alternatives together with one tree for each
reference of that alternative. In a closed grammar the trees are the values of the type model:
`Closed.derives_iff` reads a tree off a variant and the rules whose values the variant holds.
-/

namespace TypedGrammar

/-- An alternative of a rule with one tree below it for each reference, in order. -/
inductive DerivationTree where
  | node (rule : RuleId) (alternative : Nat) (children : List DerivationTree)

/-- To prove a statement of every tree it is enough to prove it of a node from its children. -/
theorem DerivationTree.induct {motive : DerivationTree → Prop}
    (node : ∀ rule alternative children, (∀ child ∈ children, motive child) →
      motive (.node rule alternative children)) : ∀ tree, motive tree
  | .node rule alternative children =>
    node rule alternative children fun child _ => DerivationTree.induct node child

/-- The trees that derive from a rule of the grammar. A reference that no rule answers has no
tree. -/
inductive Grammar.Derives (g : Grammar) : RuleId → DerivationTree → Prop where
  | node {id i : Nat} {r : Rule} {a : Alternative} {targets : List RuleId}
      {children : List DerivationTree} (hr : g.rules[id]? = some r)
      (ha : r.alternatives[i]? = some a)
      (htargets : (Alternative.references a).map g.find? = targets.map some)
      (hchildren : List.Forall₂ g.Derives targets children) :
      g.Derives id (.node id i children)

namespace Grammar

/-- Every reference of the grammar names one of its rules. -/
def Closed (g : Grammar) : Prop :=
  ∀ r ∈ g.rules, ∀ a ∈ r.alternatives, ∀ name ∈ Alternative.references a,
    ∃ id, g.find? name = some id

lemma undefinedReferences_ne_nil {g : Grammar} {r : Rule} (hr : r ∈ g.rules) {a : Alternative}
    (ha : a ∈ r.alternatives) {name : Name} (hname : name ∈ Alternative.references a)
    (hfind : g.find? name = none) : g.undefinedReferences ≠ [] := by
  obtain ⟨i, hi, rfl⟩ := List.mem_iff_getElem.mp ha
  obtain ⟨part, hpart, hpartname⟩ := List.mem_filterMap.mp hname
  obtain ⟨j, hj, rfl⟩ := List.mem_iff_getElem.mp hpart
  have hreference : r.alternatives[i][j] = .reference name := by
    cases hp : r.alternatives[i][j] <;> simp_all [Part.reference?]
  apply List.ne_nil_of_mem (a := .undefinedReference r.name name i j)
  refine List.mem_flatMap.mpr ⟨r, hr, ?_⟩
  refine List.mem_flatMap.mpr ⟨(r.alternatives[i], i), ?_, ?_⟩
  · exact List.mem_zipIdx_iff_getElem?.mpr (List.getElem?_eq_getElem hi)
  · refine List.mem_filterMap.mpr ⟨(r.alternatives[i][j], j), ?_, ?_⟩
    · exact List.mem_zipIdx_iff_getElem?.mpr (List.getElem?_eq_getElem hj)
    · simp [hreference, undefinedReference?, hfind]

/-- An analysis that succeeds found no error and starts at the rule it was asked to start at. -/
theorem analyze_eq_ok {g : Grammar} {start : Option Name} {a : Analysis}
    (h : g.analyze start = .ok a) :
    a = g.analysis (g.startRule start) ∧ g.closureErrors start = [] ∧
      g.productivityErrors = [] := by
  unfold analyze at h
  split at h
  · cases h
  · rename_i hclosure
    split at h
    · cases h
    · rename_i hproductivity
      cases h
      exact ⟨rfl, not_not.mp hclosure, not_not.mp hproductivity⟩

theorem closed_of_analyze {g : Grammar} {start : Option Name} {a : Analysis}
    (h : g.analyze start = .ok a) : g.Closed := by
  intro r hr alternative ha name hname
  have hclosure := (analyze_eq_ok h).2.1
  simp only [closureErrors, List.append_eq_nil_iff] at hclosure
  by_contra hfind
  refine undefinedReferences_ne_nil hr ha hname ?_ hclosure.1.1
  exact Option.eq_none_iff_forall_ne_some.mpr fun id hid => hfind ⟨id, hid⟩

/-! ### Trees and variants -/

lemma rules_terms (g : Grammar) (a : Alternative) :
    Term.rules (g.terms a) = (Alternative.references a).filterMap g.find? := by
  rw [Term.rules, terms, Alternative.references, List.filterMap_filterMap, List.filterMap_filterMap]
  congr 1
  funext part
  cases part with
  | literal text => rfl
  | epsilon => rfl
  | reference name => cases h : g.find? name <;> simp [term?, Part.reference?, Term.rule?, h]

lemma filterMap_find?_of_map_find? {g : Grammar} {names : List Name} {targets : List RuleId}
    (h : names.map g.find? = targets.map some) : names.filterMap g.find? = targets := by
  have hmap : names.filterMap g.find? = (names.map g.find?).filterMap id := by
    rw [List.filterMap_map]
    rfl
  rw [hmap, h, List.filterMap_map]
  exact List.filterMap_some

lemma map_find?_of_forall {g : Grammar} {names : List Name}
    (h : ∀ name ∈ names, ∃ id, g.find? name = some id) :
    names.map g.find? = (names.filterMap g.find?).map some := by
  induction names with
  | nil => rfl
  | cons name names ih =>
    obtain ⟨id, hid⟩ := h name (by simp)
    rw [List.map_cons, ih fun name hname => h name (by simp [hname]), List.filterMap_cons_some hid,
      hid, List.map_cons]

lemma terms_variants (g : Grammar) (owner : RuleId) (ownerName : Name) (taken : NameSet)
    (refinements : List (RuleId × RuleId)) (alternatives : List Alternative) :
    (g.variants owner ownerName taken refinements alternatives).1.map (·.terms) =
      alternatives.map g.terms := by
  induction alternatives generalizing taken refinements with
  | nil => rfl
  | cons a alternatives ih => rw [variants, List.map_cons, ih, List.map_cons]

lemma terms_capabilities (g : Grammar) (refinements : List (RuleId × RuleId))
    (rules : List (Rule × RuleId)) :
    (g.capabilities refinements rules).1.map (fun c => c.variants.map (·.terms)) =
      rules.map fun r => r.1.alternatives.map g.terms := by
  induction rules generalizing refinements with
  | nil => rfl
  | cons r rules ih => rw [capabilities, List.map_cons, ih, terms_variants, List.map_cons]

lemma terms_typeModel {g : Grammar} {id : RuleId} {r : Rule} (hr : g.rules[id]? = some r) :
    (g.typeModel.variants id).map (·.terms) = r.alternatives.map g.terms := by
  have hterms := congrArg (·[id]?) (g.terms_capabilities [] g.rules.zipIdx)
  simp only [List.getElem?_map, List.getElem?_zipIdx, hr, Option.map_some,
    Option.map_eq_some_iff] at hterms
  obtain ⟨c, hc, hterms⟩ := hterms
  rw [← hterms, TypeModel.variants, typeModel, hc]
  rfl

lemma variants_typeModel_of_none {g : Grammar} {id : RuleId} (hr : g.rules[id]? = none) :
    g.typeModel.variants id = [] := by
  have hterms := congrArg (·[id]?) (g.terms_capabilities [] g.rules.zipIdx)
  simp only [List.getElem?_map, List.getElem?_zipIdx, hr, Option.map_none,
    Option.map_eq_none_iff] at hterms
  rw [TypeModel.variants, typeModel, hterms]
  rfl

/-- The variants of the type model hold the terms of the alternatives, one for one. -/
theorem getElem?_variants_typeModel (g : Grammar) (id i : Nat) :
    (g.typeModel.variants id)[i]?.map (·.terms) =
      (g.rules[id]?.bind (·.alternatives[i]?)).map g.terms := by
  cases hr : g.rules[id]? with
  | none => simp [variants_typeModel_of_none hr]
  | some r =>
    rw [← List.getElem?_map, terms_typeModel hr, List.getElem?_map]
    rfl

/-- In a closed grammar a tree is a variant of its rule with a tree for each rule that the variant
holds a value of. -/
theorem Closed.derives_iff {g : Grammar} (hg : g.Closed) {id : RuleId} {t : DerivationTree} :
    g.Derives id t ↔ ∃ i v children, (g.typeModel.variants id)[i]? = some v ∧
      List.Forall₂ g.Derives v.ruleTerms children ∧ t = .node id i children := by
  constructor
  · rintro ⟨hr, ha, htargets, hchildren⟩
    rename_i i r a targets children
    have hterms := g.getElem?_variants_typeModel id i
    simp only [hr, Option.bind_some, ha, Option.map_some, Option.map_eq_some_iff] at hterms
    obtain ⟨v, hv, hterms⟩ := hterms
    refine ⟨i, v, children, hv, ?_, rfl⟩
    have hrules : v.ruleTerms = targets := by
      rw [Variant.ruleTerms, hterms, rules_terms]
      exact filterMap_find?_of_map_find? htargets
    rwa [hrules]
  · rintro ⟨i, v, children, hv, hchildren, rfl⟩
    have hterms := g.getElem?_variants_typeModel id i
    simp only [hv, Option.map_some] at hterms
    obtain ⟨a, ha, hterms⟩ := Option.map_eq_some_iff.mp hterms.symm
    obtain ⟨r, hr, ha⟩ := Option.bind_eq_some_iff.mp ha
    refine .node hr ha ?_ hchildren
    rw [Variant.ruleTerms, ← hterms, rules_terms]
    exact map_find?_of_forall (hg r (List.mem_of_getElem? hr) a (List.mem_of_getElem? ha))

end Grammar

end TypedGrammar
