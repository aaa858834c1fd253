import Mathlib
import TypedGrammar.Proofs.BuilderDerivation
import TypedGrammar.Proofs.RefinementHierarchy

/-!
# Texts of subtypes

The text of a derivation tree is what its literals spell. Where a rule refines another, a chain of
bare references leads down from the other to it, and putting a tree below that chain makes a tree of
the other with the same text. So a subtype derives no text that its supertypes do not.
-/

namespace TypedGrammar

/-- The text of an alternative whose references stand for these texts, in order. -/
def Alternative.textWith : List Part → List (List Char) → List Char
  | [], _ => []
  | .literal text :: parts, texts => text.chars ++ textWith parts texts
  | .epsilon :: parts, texts => textWith parts texts
  | .reference _ :: _, [] => []
  | .reference _ :: parts, text :: texts => text ++ textWith parts texts

namespace DerivationTree

mutual

/-- The literals of the alternatives in the tree, put together. -/
def text (g : Grammar) : DerivationTree → List Char
  | .node rule alternative children =>
    Alternative.textWith ((g.rules[rule]?.bind (·.alternatives[alternative]?)).getD [])
      (texts g children)

def texts (g : Grammar) : List DerivationTree → List (List Char)
  | [] => []
  | tree :: trees => tree.text g :: texts g trees

end

/-- The tree below alternatives that consist of one reference each, the last of them directly above
it. -/
def under (tree : DerivationTree) (chain : List (RuleId × Nat)) : DerivationTree :=
  chain.foldr (fun (rule, alternative) tree => .node rule alternative [tree]) tree

end DerivationTree

namespace Grammar

/-- The text is that of some derivation tree of the rule. -/
def Spells (g : Grammar) (id : RuleId) (text : List Char) : Prop :=
  ∃ tree, g.Derives id tree ∧ tree.text g = text

/-- The alternatives lead from `sup` down to `sub`. Each consists of a reference to the rule of the
next, and that rule refines its owner through it. -/
inductive RefinementChain (g : Grammar) : RuleId → List (RuleId × Nat) → RuleId → Prop where
  | nil (id : RuleId) : g.RefinementChain id [] id
  | cons {sup i next sub : Nat} {r : Rule} {name : Name} {v : Variant}
      {chain : List (RuleId × Nat)} (hr : g.rules[sup]? = some r)
      (ha : r.alternatives[i]? = some [.reference name]) (hname : g.find? name = some next)
      (hv : (g.typeModel.variants sup)[i]? = some v) (hrefines : v.refines = some next)
      (hchain : g.RefinementChain next chain sub) : g.RefinementChain sup ((sup, i) :: chain) sub

variable {g : Grammar} {sub sup : RuleId} {chain : List (RuleId × Nat)}

/-- In a closed grammar an alternative with the one term of a rule is a reference to that rule. -/
lemma exists_reference_of_terms {a : Alternative} {id : RuleId}
    (ha : ∀ name ∈ Alternative.references a, ∃ id, g.find? name = some id)
    (hterms : g.terms a = [.rule id]) : ∃ name, a = [.reference name] ∧ g.find? name = some id := by
  have hpart : ∀ part ∈ a, (g.term? part).isSome = true := by
    intro part hpart
    cases part with
    | literal text => rfl
    | epsilon => rfl
    | reference name =>
      obtain ⟨other, hother⟩ := ha name (List.mem_filterMap.mpr ⟨_, hpart, rfl⟩)
      simp [term?, hother]
  have hlength : (g.terms a).length = a.length := List.filterMap_length_eq_length.mpr hpart
  rw [hterms, List.length_singleton] at hlength
  obtain ⟨part, rfl⟩ := List.length_eq_one_iff.mp hlength.symm
  cases part with
  | literal text => simp [terms, term?] at hterms
  | epsilon => simp [terms, term?] at hterms
  | reference name =>
    cases hname : g.find? name with
    | none => simp [terms, term?, hname] at hterms
    | some other => exact ⟨name, rfl, by simpa [terms, term?, hname] using hterms⟩

/-- A refinement of a closed grammar is an alternative that consists of one reference. -/
lemma Closed.refinementChain_cons (hg : g.Closed) {next : RuleId}
    (hedge : (next, sup) ∈ g.typeModel.refinements) (hchain : g.RefinementChain next chain sub) :
    ∃ i, g.RefinementChain sup ((sup, i) :: chain) sub := by
  obtain ⟨v, hv, hrefines⟩ := mem_refinements_typeModel_iff.mp hedge
  obtain ⟨i, hi⟩ := List.mem_iff_getElem?.mp hv
  have hterms := g.getElem?_variants_typeModel sup i
  rw [hi, Option.map_some, terms_of_refines hv hrefines] at hterms
  obtain ⟨a, ha, hterms⟩ := Option.map_eq_some_iff.mp hterms.symm
  obtain ⟨r, hr, ha⟩ := Option.bind_eq_some_iff.mp ha
  obtain ⟨name, rfl, hname⟩ := exists_reference_of_terms
    (hg r (List.mem_of_getElem? hr) a (List.mem_of_getElem? ha)) hterms
  exact ⟨i, .cons hr ha hname hi hrefines hchain⟩

lemma Closed.exists_refinementChain (hg : g.Closed) (h : Leads g.typeModel.refinements sub sup) :
    ∃ chain, g.RefinementChain sup chain sub := by
  induction h with
  | refl => exact ⟨[], .nil sub⟩
  | tail _ hedge ih =>
    obtain ⟨chain, hchain⟩ := ih
    obtain ⟨i, hcons⟩ := hg.refinementChain_cons hedge hchain
    exact ⟨_, hcons⟩

/-- A tree of the refining rule makes a tree of the refined one with the same text. -/
theorem RefinementChain.substitute (h : g.RefinementChain sup chain sub) {tree : DerivationTree}
    (htree : g.Derives sub tree) :
    g.Derives sup (tree.under chain) ∧ (tree.under chain).text g = tree.text g := by
  induction h with
  | nil id => exact ⟨htree, rfl⟩
  | @cons sup i next sub r name v chain hr ha hname _ _ _ ih =>
    obtain ⟨hderives, htext⟩ := ih htree
    have htargets : (Alternative.references [.reference name]).map g.find? = [next].map some := by
      rw [List.map_singleton, ← hname]
      rfl
    refine ⟨.node hr ha htargets (.cons hderives .nil), ?_⟩
    change DerivationTree.text g (.node sup i [tree.under chain]) = _
    rw [DerivationTree.text, hr, Option.bind_some, ha, Option.getD_some, DerivationTree.texts,
      DerivationTree.texts, Alternative.textWith, Alternative.textWith, List.append_nil, htext]

/-- References lead the way that refinements come from. -/
lemma RefinementChain.path (h : g.RefinementChain sup chain sub) :
    g.referenceGraphs.all.Path sup sub := by
  induction h with
  | nil id => exact .refl
  | cons _ _ _ hv hrefines _ ih =>
    have hmem := List.mem_of_getElem? hv
    refine ih.head (edge_of_mem_ruleTerms hmem ?_)
    rw [Variant.ruleTerms, terms_of_refines hmem hrefines]
    exact List.mem_singleton.mpr rfl

/-- Subtypes are substitutable. Whatever text a subtype derives, its supertype derives through a chain
of bare references that are refinements, and references lead from the supertype to the subtype. -/
theorem isSubtype_substitutable {start : Option Name} {a : Analysis} (h : g.analyze start = .ok a)
    (hsub : g.typeModel.isSubtype sub sup = true) :
    (∃ chain, g.RefinementChain sup chain sub ∧ ∀ tree, g.Derives sub tree →
      g.Derives sup (tree.under chain) ∧ (tree.under chain).text g = tree.text g) ∧
    (∀ text, g.Spells sub text → g.Spells sup text) ∧
    a.reaches sup sub = true := by
  have hg := closed_of_analyze h
  obtain ⟨rfl, _⟩ := analyze_eq_ok h
  obtain ⟨hsup, hleads⟩ := isSubtype_typeModel_iff.mp hsub
  obtain ⟨chain, hchain⟩ := hg.exists_refinementChain hleads
  refine ⟨⟨chain, hchain, fun tree htree => hchain.substitute htree⟩, ?_, ?_⟩
  · rintro _ ⟨tree, htree, rfl⟩
    obtain ⟨hderives, htext⟩ := hchain.substitute htree
    exact ⟨_, hderives, htext⟩
  · refine reaches_analysis_iff.mpr ⟨?_, hchain.path⟩
    rcases hchain.path.cases_tail with rfl | ⟨_, _, hedge⟩
    · exact hsup
    · exact (RuleGraph.edge_ofParts_iff.mp hedge).1

/-- A digit is a number and a number is a group, so that a digit derives what a group does. -/
theorem isSubtype_nestedNumbers_substitutable :
    nestedNumbers.typeModel.isSubtype 0 2 = true ∧ nestedNumbers.Spells 0 ['1'] ∧
      nestedNumbers.Spells 2 ['1'] ∧ (nestedNumbers.analysis 0).reaches 2 0 = true := by
  have h : nestedNumbers.analyze none = .ok (nestedNumbers.analysis 0) := by cbv
  have hsub : nestedNumbers.typeModel.isSubtype 0 2 = true := by decide +kernel
  have htree : nestedNumbers.Derives 0 (.node 0 1 []) := .node rfl rfl rfl .nil
  have hdigit : nestedNumbers.Spells 0 ['1'] := ⟨_, htree, by decide +kernel⟩
  obtain ⟨_, hspells, hreaches⟩ := isSubtype_substitutable h hsub
  exact ⟨hsub, hdigit, hspells ['1'] hdigit, hreaches⟩

end Grammar

end TypedGrammar
