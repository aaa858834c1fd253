import Mathlib
import TypedGrammar.Code.Generation
import TypedGrammar.Proofs.BuilderDerivation
import TypedGrammar.Proofs.RefinementHierarchy

/-!
# Unboxed fields

An enum that holds another without a box is larger than it, so a cycle of such fields would have no
finite size. A field that lies on a cycle of references leads back to the enum it is in, and is boxed.
-/

namespace TypedGrammar.Code

/-- The enum of `x` has a variant with an unboxed field of the enum of `y`. -/
def Module.Embeds (code : Module) (x y : RuleId) : Prop :=
  ∃ item ∈ code.enums, item.rule = x ∧ ∃ fields ∈ item.variants, ⟨y, false⟩ ∈ fields

variable {g : Grammar} {start x y : RuleId} {name : List Char}

lemma mem_fields_enumItem_iff {a : Analysis} {c : Capability} :
    (∃ fields ∈ (enumItem a c).variants, ⟨y, false⟩ ∈ fields) ↔
      ∃ v ∈ c.variants, y ∈ v.ruleTerms ∧ isBoxed a c.rule y = false := by
  simp only [enumItem, List.mem_map, exists_exists_and_eq_and, Field.mk.injEq]
  refine exists_congr fun v => and_congr_right fun _ => ?_
  constructor
  · rintro ⟨_, hy, rfl, hboxed⟩
    exact ⟨hy, hboxed⟩
  · rintro ⟨hy, hboxed⟩
    exact ⟨y, hy, rfl, hboxed⟩

/-- The unboxed fields are the rule terms of variants that do not lead back to the owner. -/
lemma embeds_generate_iff :
    (generate name (.ofAnalysis (g.analysis start))).Embeds x y ↔
      ∃ v ∈ g.typeModel.variants x, y ∈ v.ruleTerms ∧
        isBoxed (g.analysis start) x y = false := by
  have henums : (generate name (.ofAnalysis (g.analysis start))).enums =
      g.typeModel.capabilities.map (enumItem (g.analysis start)) := rfl
  rw [Module.Embeds, henums]
  simp only [List.mem_map, exists_exists_and_eq_and, mem_fields_enumItem_iff]
  constructor
  · rintro ⟨c, hc, rfl, v, hv, hfield⟩
    exact ⟨v, Grammar.mem_variants_typeModel_iff.mpr ⟨c, hc, rfl, hv⟩, hfield⟩
  · rintro ⟨v, hv, hfield⟩
    obtain ⟨c, hc, rfl, hmem⟩ := Grammar.mem_variants_typeModel_iff.mp hv
    exact ⟨c, hc, rfl, v, hmem, hfield⟩

/-- An unboxed field is a reference from which no path leads back. -/
lemma edge_of_embeds (h : (generate name (.ofAnalysis (g.analysis start))).Embeds x y) :
    g.referenceGraphs.all.Edge x y ∧ ¬ g.referenceGraphs.all.Path y x := by
  obtain ⟨v, hv, hy, hboxed⟩ := embeds_generate_iff.mp h
  have hedge := Grammar.edge_of_mem_ruleTerms hv hy
  refine ⟨hedge, fun hback => ?_⟩
  have hx : x < g.size := by
    obtain ⟨_, r, hr, _⟩ := RuleGraph.edge_ofParts_iff.mp hedge
    exact (List.getElem?_eq_some_iff.mp hr).1
  have hreaches : isBoxed (g.analysis start) x y = true :=
    Grammar.reaches_analysis_iff.mpr ⟨hx, hback⟩
  rw [hboxed] at hreaches
  cases hreaches

/-- Generated enums have finite size: a field of a rule is unboxed where its rule does not lead back to
the owner of the variant, and no enum holds itself through unboxed fields, however many. -/
theorem embeds_acyclic (name : List Char) {start : Option Name} {a : Analysis} (h : g.analyze start = .ok a) :
    let code := generate name (.ofAnalysis a)
    (∀ x y, code.Embeds x y ↔
      ∃ v ∈ a.grammar.typeModel.variants x, y ∈ v.ruleTerms ∧ isBoxed a x y = false) ∧
    ∀ x, ¬ Relation.TransGen code.Embeds x x := by
  obtain ⟨rfl, _⟩ := Grammar.analyze_eq_ok h
  refine ⟨fun x y => embeds_generate_iff, fun x hcycle => ?_⟩
  -- The rest of the cycle is a path back over its first field.
  obtain ⟨y, hfirst, hrest⟩ := Relation.TransGen.head'_iff.mp hcycle
  obtain ⟨_, hback⟩ := edge_of_embeds hfirst
  exact hback (Relation.ReflTransGen.mono (fun _ _ hedge => (edge_of_embeds hedge).1) _ _ hrest)

/-- A number holds its digit without a box, and the number before the digit in one. -/
theorem embeds_nestedNumbers_acyclic :
    let code := generate "numbers".toList (.ofAnalysis (nestedNumbers.analysis 0))
    code.Embeds 1 0 ∧ ¬ code.Embeds 1 1 ∧ ¬ Relation.TransGen code.Embeds 2 2 := by
  have h : nestedNumbers.analyze none = .ok (nestedNumbers.analysis 0) := by cbv
  obtain ⟨hembeds, hacyclic⟩ := embeds_acyclic "numbers".toList h
  refine ⟨(hembeds 1 0).mpr ?_, fun hloop => hacyclic 1 (.single hloop), hacyclic 2⟩
  have hvariant : ∃ v ∈ nestedNumbers.typeModel.variants 1, 0 ∈ v.ruleTerms := by decide +kernel
  obtain ⟨v, hv, hdigit⟩ := hvariant
  exact ⟨v, hv, hdigit, by decide +kernel⟩

end TypedGrammar.Code
