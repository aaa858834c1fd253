import TypedGrammar.Builder.Synthesis
import TypedGrammar.Proofs.DerivationTree

/-!
# Shapes of analyzed rules

How an analysis reads at one rule, and what the shape of a rule says about its variants: in a left
recursive sequence the variants that extend a value begin with a value of the rule itself.
-/

namespace TypedGrammar.Grammar

variable {g : Grammar} {start id : RuleId} {r : Rule}

lemma getElem?_summaries (hr : g.rules[id]? = some r) :
    (g.analysis start).summaries[id]? =
      some (g.summarize g.referenceGraphs (g.referenceGraphs.all.reachableFrom start) r id) := by
  simp [analysis, hr]

lemma recursion_analysis (hr : g.rules[id]? = some r) :
    (g.analysis start).recursion id = r.alternatives.map (g.classify g.referenceGraphs id) := by
  simp [Analysis.recursion, getElem?_summaries hr, summarize]

lemma shape_analysis (hr : g.rules[id]? = some r) :
    (g.analysis start).shape id =
      g.shapeOf id (r.alternatives.zip ((g.analysis start).recursion id)) := by
  simp [Analysis.shape, getElem?_summaries hr, summarize, recursion_analysis hr]

lemma shape_analysis_of_none (hr : g.rules[id]? = none) :
    (g.analysis start).shape id = .general := by
  simp [Analysis.shape, analysis, hr]

/-- One class of recursion is known for each variant. -/
lemma length_recursion_analysis (start : RuleId) :
    ((g.analysis start).recursion id).length = (g.typeModel.variants id).length := by
  cases hr : g.rules[id]? with
  | none => simp [Analysis.recursion, analysis, variants_typeModel_of_none hr, hr]
  | some r =>
    have hterms := congrArg List.length (terms_typeModel hr)
    rw [List.length_map, List.length_map] at hterms
    rw [hterms, recursion_analysis hr, List.length_map]

lemma extends_of_shapeOf {alternatives : List (Alternative × Recursion)}
    (h : g.shapeOf id alternatives = .leftRecursiveSequence) {a : Alternative} {c : Recursion}
    (ha : (a, c) ∈ alternatives) (hc : c ≠ .nonRecursive) : g.extends? id a = true := by
  unfold shapeOf at h
  split at h
  · cases h
  · split at h
    · rename_i hall
      have hmem := List.all_eq_true.mp (Bool.and_eq_true_iff.mp hall).1 (a, c) ha
      simp only [hc, decide_false, Bool.false_or, Bool.and_eq_true, decide_eq_true_eq] at hmem
      exact hmem.2
    · cases h

lemma terms_of_extends {a : Alternative} (h : g.extends? id a = true) :
    ∃ payload, g.terms a = .rule id :: payload := by
  unfold extends? at h
  split at h
  · rename_i name part parts
    refine ⟨g.terms (part :: parts), ?_⟩
    have hfind : g.find? name = some id := by simpa using h
    rw [terms, List.filterMap_cons_some (b := .rule id) (by simp [term?, hfind])]
    rfl
  · cases h

/-- A variant whose steps grow a value begins with a value of its own rule. -/
theorem terms_of_growth {index : Nat} {v : Variant} {c : Recursion}
    (hv : (g.typeModel.variants id)[index]? = some v)
    (hc : ((g.analysis start).recursion id)[index]? = some c)
    (hshape : (g.analysis start).shape id ≠ .general)
    (hkind : stepKind ((g.analysis start).shape id) c = .growth) :
    ∃ payload, v.terms = .rule id :: payload := by
  cases hr : g.rules[id]? with
  | none => exact absurd (shape_analysis_of_none hr) hshape
  | some r =>
    have hterms := g.getElem?_variants_typeModel id index
    simp only [hv, hr, Option.map_some, Option.bind_some] at hterms
    obtain ⟨a, ha, hterms⟩ := Option.map_eq_some_iff.mp hterms.symm
    have hmem : (a, c) ∈ r.alternatives.zip ((g.analysis start).recursion id) := by
      refine List.mem_of_getElem? (i := index) ?_
      rw [List.getElem?_zip_eq_some]
      exact ⟨ha, hc⟩
    have hsequence : (g.analysis start).shape id = .leftRecursiveSequence := by
      cases hs : (g.analysis start).shape id with
      | flat => simp [stepKind, hs] at hkind
      | leftRecursiveSequence => rfl
      | general => exact absurd hs hshape
    have hrecursive : c ≠ .nonRecursive := by
      rintro rfl
      simp [stepKind, hsequence] at hkind
    rw [← hterms]
    rw [shape_analysis hr] at hsequence
    exact terms_of_extends (extends_of_shapeOf hsequence hmem hrecursive)

end TypedGrammar.Grammar
