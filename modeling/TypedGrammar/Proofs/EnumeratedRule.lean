import Mathlib
import TypedGrammar.Proofs.ConstructionShape
import TypedGrammar.Proofs.ListedValue

/-!
# Rules that are enumerated

A rule is enumerable when its variants hold no values or are one value of an enumerable rule. Such a rule
does not come back to itself, so it is flat, and looking through rules ends for any flat rule. What is
listed then are the trees of the rule, by their alternatives, and it is given up exactly where there are
too many of them: a rule has no fewer trees than one that it looks through.
-/

namespace TypedGrammar

/-- Every variant of the rule holds no values of rules or is one value of an enumerable rule. -/
inductive TypeModel.Enumerable (m : TypeModel) : RuleId → Prop where
  | intro {rule : RuleId}
      (hvariants : ∀ v ∈ m.variants rule, v.isTerminal = true ∨ ∃ sub, v.terms = [.rule sub])
      (hsubs : ∀ v ∈ m.variants rule, ∀ sub, v.terms = [.rule sub] → m.Enumerable sub) :
      m.Enumerable rule

/-- To list the values of a flat rule it may be needed to list those of `sub`. -/
def Looks (a : Analysis) (m : TypeModel) (sub rule : RuleId) : Prop :=
  a.shape rule = .flat ∧ ∃ v ∈ m.variants rule, v.terms = [.rule sub]

/-- The values found so far, and those of the variants one after the other. This ends without any where
a variant cannot be enumerated, and as soon as there are too many. -/
def enumerateFrom? (inner : RuleId → Option (List NamedSelection)) (rule : RuleId)
    (found : List NamedSelection) : List (Variant × ℕ) → Option (List NamedSelection)
  | [] => some found
  | v :: variants =>
    (v.1.enumerate? inner rule v.2).bind fun values =>
      if maxValues < (found ++ values).length then none
      else enumerateFrom? inner rule (found ++ values) variants

lemma Variant.ruleTerms_of_terms {sub : RuleId} (v : Variant) (h : v.terms = [.rule sub]) :
    v.ruleTerms = [sub] := by
  rw [ruleTerms, h]
  rfl

lemma Variant.isTerminal_iff {v : Variant} : v.isTerminal = true ↔ v.ruleTerms = [] :=
  decide_eq_true_iff

/-! ### Giving up early -/

section Inner

variable {inner inner' : RuleId → Option (List NamedSelection)} {rule : RuleId} {v : Variant}
  {index : ℕ} {found : List NamedSelection} {variants : List (Variant × ℕ)}

/-- A variant needs the values of a rule only if it is one value of that rule. -/
lemma Variant.enumerate?_congr (h : ∀ sub, v.terms = [.rule sub] → inner sub = inner' sub) :
    v.enumerate? inner rule index = v.enumerate? inner' rule index := by
  unfold enumerate?
  split
  · rename_i sub hterms
    rw [h sub hterms]
  · rfl

lemma Variant.exists_enumerate?_iff :
    (∃ values, v.enumerate? inner rule index = some values) ↔
      v.isTerminal = true ∨ ∃ sub, v.terms = [.rule sub] ∧ ∃ values, inner sub = some values := by
  unfold enumerate?
  split
  · rename_i sub hterms
    simp [isTerminal_iff, v.ruleTerms_of_terms hterms, hterms, Option.map_eq_some_iff]
  · rename_i hterms
    have hnone : ∀ sub, v.terms ≠ [.rule sub] := fun sub heq => hterms sub heq
    by_cases hterminal : v.isTerminal = true <;> simp [hterminal, hnone]

lemma enumerateFrom?_congr
    (h : ∀ v ∈ variants, ∀ sub, v.1.terms = [.rule sub] → inner sub = inner' sub) :
    enumerateFrom? inner rule found variants = enumerateFrom? inner' rule found variants := by
  induction variants generalizing found with
  | nil => rfl
  | cons v variants ih =>
    obtain ⟨hv, hrest⟩ := List.forall_mem_cons.mp h
    simp only [enumerateFrom?, Variant.enumerate?_congr hv, ih hrest]

/-- To give up as soon as there are too many values is to count them in the end. -/
theorem enumerateFrom?_eq_bind (hfound : found.length ≤ maxValues) :
    enumerateFrom? inner rule found variants =
      (variants.mapM fun v : Variant × ℕ => v.1.enumerate? inner rule v.2).bind fun lists =>
        if (found ++ lists.flatten).length ≤ maxValues then some (found ++ lists.flatten)
        else none := by
  induction variants generalizing found with
  | nil => simp [enumerateFrom?, hfound]
  | cons v variants ih =>
    rw [enumerateFrom?, List.mapM_cons]
    cases hv : v.1.enumerate? inner rule v.2 with
    | none => rfl
    | some values =>
      by_cases hlength : maxValues < (found ++ values).length
      · -- Whatever the other variants add, it stays too long.
        simp only [Option.bind_some, if_pos hlength, Option.bind_eq_bind]
        cases hrest : variants.mapM fun v : Variant × ℕ => v.1.enumerate? inner rule v.2 with
        | none => rfl
        | some lists =>
          have hlong : ¬ (found ++ (values :: lists).flatten).length ≤ maxValues := by
            simp only [List.length_append, List.flatten_cons] at hlength ⊢
            omega
          exact (if_neg hlong).symm
      · simp only [Option.bind_some, if_neg hlength, Option.bind_eq_bind,
          ih (Nat.le_of_not_lt hlength)]
        cases variants.mapM fun v : Variant × ℕ => v.1.enumerate? inner rule v.2 <;> simp

lemma exists_mapM_eq_some_iff {α β : Type} {f : α → Option β} {l : List α} :
    (∃ images, l.mapM f = some images) ↔ ∀ a ∈ l, ∃ b, f a = some b := by
  induction l with
  | nil => simp
  | cons a l ih =>
    rw [List.forall_mem_cons, ← ih, List.mapM_cons]
    cases f a <;> cases l.mapM f <;> simp

end Inner

section Depth

variable {a : Analysis} {m : TypeModel} {rule : RuleId} {depth : ℕ} {values : List NamedSelection}

lemma enumerateWithin_of_ne_flat (h : a.shape rule ≠ .flat) :
    enumerateWithin a m depth rule = none := by
  cases depth with
  | zero => rfl
  | succ depth => exact if_neg h

lemma enumerateWithin_succ :
    enumerateWithin a m (depth + 1) rule =
      if a.shape rule = .flat then
        enumerateFrom? (enumerateWithin a m depth) rule [] (m.variants rule).zipIdx
      else none := by
  rw [enumerateFrom?_eq_bind (Nat.zero_le _)]
  rfl

lemma length_le_of_enumerateWithin (h : enumerateWithin a m depth rule = some values) :
    values.length ≤ maxValues := by
  cases depth with
  | zero => cases h
  | succ depth =>
    obtain ⟨_, lists, _, hlength, rfl⟩ := enumerateWithin_succ_eq_some_iff.mp h
    exact hlength

/-- Only what is enumerable has values listed. -/
theorem enumerable_of_enumerateWithin (h : enumerateWithin a m depth rule = some values) :
    m.Enumerable rule := by
  induction depth generalizing rule values with
  | zero => cases h
  | succ depth ih =>
    obtain ⟨_, lists, hlists, _⟩ := enumerateWithin_succ_eq_some_iff.mp h
    have hvariants : ∀ v ∈ m.variants rule, v.isTerminal = true ∨
        ∃ sub, v.terms = [.rule sub] ∧ ∃ list, enumerateWithin a m depth sub = some list := by
      intro v hv
      obtain ⟨index, hindex⟩ := List.mem_iff_getElem?.mp hv
      have hlist := exists_mapM_eq_some_iff.mp ⟨lists, hlists⟩ (v, index)
        (List.mem_zipIdx_iff_getElem?.mpr hindex)
      exact Variant.exists_enumerate?_iff.mp hlist
    refine .intro (fun v hv => (hvariants v hv).imp_right fun ⟨sub, hterms, _⟩ => ⟨sub, hterms⟩) ?_
    intro v hv sub hterms
    obtain hterminal | ⟨target, htarget, list, hlist⟩ := hvariants v hv
    · rw [Variant.isTerminal_iff, v.ruleTerms_of_terms hterms] at hterminal
      cases hterminal
    · cases hterms.symm.trans htarget
      exact ih hlist

/-- The values are listed in the order of the alternatives. -/
theorem pairwise_before_enumerateWithin {g : Grammar} (hg : g.Closed)
    (h : enumerateWithin a g.typeModel depth rule = some values) :
    values.Pairwise NamedSelection.Before := by
  induction depth generalizing rule values with
  | zero => cases h
  | succ depth ih =>
    obtain ⟨_, lists, hlists, _, rfl⟩ := enumerateWithin_succ_eq_some_iff.mp h
    exact pairwise_before_variants (fun _ _ => enumerates_enumerateWithin hg a) (fun _ _ => ih) hlists

end Depth

/-! ### Looking through rules ends -/

namespace Grammar

variable {g : Grammar} {start rule sub : RuleId} {v : Variant}

/-- A rule refers to another when one of its variants holds a value of the other. -/
lemma refers_iff : g.Refers rule sub ↔ ∃ v ∈ g.typeModel.variants rule, sub ∈ v.ruleTerms := by
  constructor
  · rintro ⟨r, a, place, name, hr, ha, _, hpart, hname⟩
    obtain ⟨i, hi⟩ := List.mem_iff_getElem?.mp ha
    have hterms := g.getElem?_variants_typeModel rule i
    rw [hr, Option.bind_some, hi, Option.map_some] at hterms
    obtain ⟨v, hv, hterms⟩ := Option.map_eq_some_iff.mp hterms
    refine ⟨v, List.mem_of_getElem? hv, ?_⟩
    rw [Variant.ruleTerms, hterms, rules_terms]
    refine List.mem_filterMap.mpr ⟨name, ?_, hname⟩
    exact List.mem_filterMap.mpr ⟨_, List.mem_of_getElem? hpart, rfl⟩
  · rintro ⟨v, hv, hsub⟩
    exact (g.traces_referenceGraph.successors rule).2 sub |>.mp (edge_of_mem_ruleTerms hv hsub)

lemma refers_of_terms (hv : v ∈ g.typeModel.variants rule) (hterms : v.terms = [.rule sub]) :
    g.Refers rule sub :=
  refers_iff.mpr ⟨v, hv, by simp [v.ruleTerms_of_terms hterms]⟩

lemma Refers.lt (h : g.Refers rule sub) : rule < g.size ∧ sub < g.size := by
  obtain ⟨r, _, _, name, hr, _, _, _, hname⟩ := h
  exact ⟨(List.getElem?_eq_some_iff.mp hr).1, lt_of_find? hname⟩

/-- The rules that a path of references from the rule leads to, the rule itself among them. -/
def pathTargets (g : Grammar) (rule : RuleId) : Set ℕ :=
  {target | target < g.size ∧ Relation.ReflTransGen g.Refers rule target}

lemma finite_pathTargets (rule : RuleId) : (g.pathTargets rule).Finite :=
  (Set.finite_Iio g.size).subset fun _ h => h.1

lemma ncard_pathTargets_le (rule : RuleId) : (g.pathTargets rule).ncard ≤ g.size := by
  have hsubset : g.pathTargets rule ⊆ Set.Iio g.size := fun _ h => h.1
  have hcard := Set.ncard_le_ncard hsubset (Set.finite_Iio g.size)
  rwa [Set.ncard_Iio_nat] at hcard

lemma ncard_pathTargets_pos (hrule : rule < g.size) : 0 < (g.pathTargets rule).ncard :=
  (Set.ncard_pos (finite_pathTargets rule)).mpr ⟨rule, hrule, .refl⟩

/-- A reference from a rule that does not come back to itself leads to one with fewer of them. -/
lemma ncard_pathTargets_lt (hrefers : g.Refers rule sub)
    (hcycle : ¬ Relation.TransGen g.Refers rule rule) :
    (g.pathTargets sub).ncard < (g.pathTargets rule).ncard := by
  refine Set.ncard_lt_ncard (Set.ssubset_iff_of_subset ?_ |>.mpr ⟨rule, ?_, ?_⟩)
    (finite_pathTargets rule)
  · exact fun target htarget => ⟨htarget.1, htarget.2.head hrefers⟩
  · exact ⟨hrefers.lt.1, .refl⟩
  · exact fun hmem => hcycle (.head' hrefers hmem.2)

lemma shape_eq_flat_iff_of_lt (hrule : rule < g.size) :
    (g.analysis start).shape rule = .flat ↔ ¬ Relation.TransGen g.Refers rule rule := by
  have hr : g.rules[rule]? = some g.rules[rule] := List.getElem?_eq_getElem hrule
  rw [shape_analysis_eq_flat_iff hr, forall_isBase_iff hr]

lemma lt_of_shape_eq_flat (h : (g.analysis start).shape rule = .flat) : rule < g.size := by
  have hshape : (g.analysis start).shape rule ≠ .general := by simp [h]
  exact lt_of_shape_ne_general hshape

lemma ncard_lt_of_looks (h : Looks (g.analysis start) g.typeModel sub rule) :
    (g.pathTargets sub).ncard < (g.pathTargets rule).ncard := by
  obtain ⟨hflat, v, hv, hterms⟩ := h
  refine ncard_pathTargets_lt (refers_of_terms hv hterms) ?_
  exact (shape_eq_flat_iff_of_lt (lt_of_shape_eq_flat hflat)).mp hflat

/-- No rule is looked through without end. -/
theorem wellFounded_looks (g : Grammar) (start : RuleId) :
    WellFounded (Looks (g.analysis start) g.typeModel) :=
  Subrelation.wf ncard_lt_of_looks (measure fun rule => (g.pathTargets rule).ncard).wf

/-- Two depths that cover the paths from a rule give the same values. -/
theorem enumerateWithin_eq_of_le {depth depth' : ℕ} (h : (g.pathTargets rule).ncard ≤ depth)
    (h' : (g.pathTargets rule).ncard ≤ depth') :
    enumerateWithin (g.analysis start) g.typeModel depth rule =
      enumerateWithin (g.analysis start) g.typeModel depth' rule := by
  induction depth generalizing depth' rule with
  | zero =>
    -- No path leads from the rule, so that it is not of the grammar.
    rw [enumerateWithin_of_ne_flat, enumerateWithin_of_ne_flat] <;>
      exact fun hflat => (ncard_pathTargets_pos (lt_of_shape_eq_flat hflat)).not_ge h
  | succ depth ih =>
    by_cases hflat : (g.analysis start).shape rule = .flat
    · have hpos := (ncard_pathTargets_pos (lt_of_shape_eq_flat hflat)).trans_le h'
      obtain ⟨depth', rfl⟩ := Nat.exists_eq_succ_of_ne_zero hpos.ne'
      rw [enumerateWithin_succ, enumerateWithin_succ, if_pos hflat, if_pos hflat]
      refine enumerateFrom?_congr fun v hv sub hterms => ?_
      have hlt := ncard_lt_of_looks ⟨hflat, v.1, List.fst_mem_of_mem_zipIdx hv, hterms⟩
      exact ih (Nat.le_of_lt_succ (hlt.trans_le h)) (Nat.le_of_lt_succ (hlt.trans_le h'))
    · rw [enumerateWithin_of_ne_flat hflat, enumerateWithin_of_ne_flat hflat]

/-- The values of a rule from those of the rules that it looks through. -/
theorem enumerate?_eq (start rule : RuleId) :
    enumerate? (g.analysis start) g.typeModel rule =
      if (g.analysis start).shape rule = .flat then
        enumerateFrom? (enumerate? (g.analysis start) g.typeModel) rule []
          (g.typeModel.variants rule).zipIdx
      else none := by
  have hsize := ncard_pathTargets_le (g := g) rule
  exact (enumerateWithin_eq_of_le hsize (Nat.le_succ_of_le hsize)).trans enumerateWithin_succ

/-! ### Enumerable rules -/

/-- An enumerable rule does not come back to itself: where it refers to a rule, that rule would come back
to itself as well. -/
lemma not_transGen_of_enumerable (h : g.typeModel.Enumerable rule) :
    ¬ Relation.TransGen g.Refers rule rule := by
  induction h with
  | intro hvariants _ ih =>
    intro hcycle
    obtain ⟨sub, hrefers, hback⟩ := Relation.TransGen.head'_iff.mp hcycle
    obtain ⟨v, hv, hsub⟩ := refers_iff.mp hrefers
    obtain hterminal | ⟨target, hterms⟩ := hvariants v hv
    · rw [Variant.isTerminal_iff.mp hterminal] at hsub
      cases hsub
    · rw [v.ruleTerms_of_terms hterms, List.mem_singleton] at hsub
      subst hsub
      exact ih v hv sub hterms (.tail' hback hrefers)

lemma derives_node (hg : g.Closed) {index : ℕ} (hv : (g.typeModel.variants rule)[index]? = some v)
    (hterms : v.terms = [.rule sub]) {tree : DerivationTree} (htree : g.Derives sub tree) :
    g.Derives rule (.node rule index [tree]) :=
  hg.derives_iff.mpr ⟨index, v, [tree], hv, by simpa [v.ruleTerms_of_terms hterms], rfl⟩

/-- A rule has no fewer trees than one that it looks through. -/
lemma encard_derives_le (hg : g.Closed) (hv : v ∈ g.typeModel.variants rule)
    (hterms : v.terms = [.rule sub]) :
    {tree | g.Derives sub tree}.encard ≤ {tree | g.Derives rule tree}.encard := by
  obtain ⟨index, hindex⟩ := List.mem_iff_getElem?.mp hv
  refine Set.encard_le_encard_of_injOn (f := fun tree => .node rule index [tree]) ?_ ?_
  · exact fun tree htree => derives_node hg hindex hterms htree
  · intro tree _ tree' _ heq
    simpa using heq

/-- An enumerable rule with no more than the most values is enumerated. Nothing that it looks through has
more trees, so that nothing is given up on the way. -/
theorem exists_enumerate? (hg : g.Closed) (h : g.typeModel.Enumerable rule) (hrule : rule < g.size)
    (hcount : {tree | g.Derives rule tree}.encard ≤ maxValues) :
    ∃ values, enumerate? (g.analysis start) g.typeModel rule = some values := by
  induction h with
  | @intro rule hvariants _ ih =>
    have hflat : (g.analysis start).shape rule = .flat :=
      (shape_eq_flat_iff_of_lt hrule).mpr (not_transGen_of_enumerable (.intro hvariants ‹_›))
    obtain ⟨lists, hlists⟩ : ∃ lists, ((g.typeModel.variants rule).zipIdx.mapM
        fun v : Variant × ℕ => v.1.enumerate? (enumerate? (g.analysis start) g.typeModel) rule v.2) =
          some lists := by
      refine exists_mapM_eq_some_iff.mpr fun v hmem => ?_
      have hv := List.fst_mem_of_mem_zipIdx hmem
      refine Variant.exists_enumerate?_iff.mpr ((hvariants v.1 hv).imp_right fun ⟨sub, hterms⟩ => ?_)
      have hsub := (refers_of_terms hv hterms).lt.2
      exact ⟨sub, hterms, ih v.1 hv sub hterms hsub ((encard_derives_le hg hv hterms).trans hcount)⟩
    have hvalues := enumerates_derives hg (fun _ _ => enumerates_enumerateWithin hg _) hlists
    rw [hvalues.encard_eq, Nat.cast_le] at hcount
    rw [enumerate?_eq, if_pos hflat, enumerateFrom?_eq_bind (Nat.zero_le _), hlists]
    exact ⟨lists.flatten, if_pos hcount⟩

end Grammar

/-- Enumerable rules are enumerated completely. The values of a rule are listed from those of the rules that
it looks through, which cannot go on without end. There are values listed exactly for the enumerable rules
with no more than 32 derivation trees. Then each of these trees is built by one value, in the order of the
alternatives, and no value leaves anything open at any depth. -/
theorem enumerates_enumerable {g : Grammar} {start : Option Name} {a : Analysis}
    (h : g.analyze start = .ok a) {rule : RuleId} (hrule : rule < g.size) :
    WellFounded (Looks a g.typeModel) ∧
    (∀ id, enumerate? a g.typeModel id =
      if a.shape id = .flat then
        enumerateFrom? (enumerate? a g.typeModel) id [] (g.typeModel.variants id).zipIdx
      else none) ∧
    ((∃ values, enumerate? a g.typeModel rule = some values) ↔
      g.typeModel.Enumerable rule ∧ {tree | g.Derives rule tree}.encard ≤ 32) ∧
    ∀ values, enumerate? a g.typeModel rule = some values →
      values ≠ [] ∧ Enumerates (g.Derives rule) values ∧ values.Pairwise NamedSelection.Before ∧
        ∀ value ∈ values, value.selection.rule = rule ∧
          ∀ fill ∈ value.selection.fills, fill.Settled := by
  have hg := Grammar.closed_of_analyze h
  obtain ⟨rfl, _, hproductive⟩ := Grammar.analyze_eq_ok h
  refine ⟨g.wellFounded_looks _, Grammar.enumerate?_eq _, ⟨?_, ?_⟩, ?_⟩
  · rintro ⟨values, hvalues⟩
    refine ⟨enumerable_of_enumerateWithin hvalues, ?_⟩
    rw [(enumerates_enumerateWithin hg _ hvalues).encard_eq]
    exact Nat.cast_le.mpr (length_le_of_enumerateWithin hvalues)
  · rintro ⟨henumerable, hcount⟩
    exact Grammar.exists_enumerate? hg henumerable hrule hcount
  · intro values hvalues
    have henumerates := enumerates_enumerateWithin hg _ hvalues
    refine ⟨?_, henumerates, pairwise_before_enumerateWithin hg hvalues, ?_⟩
    · obtain ⟨tree, htree⟩ := Grammar.productivityErrors_eq_nil_iff.mp hproductive rule hrule
      exact henumerates.ne_nil htree
    · intro value hvalue
      have hfixes := fixes_of_mem_enumerateWithin hvalues hvalue
      obtain ⟨v, _, hsupply⟩ := hfixes.supply
      exact ⟨hfixes.rule_eq, hsupply.settled hfixes.arguments_eq⟩

/-- A switch, a mode that is a switch or left out, and two modes side by side. -/
def switchModes : Grammar :=
  let switch : Name := ⟨[⟨"switch".toList, by decide⟩], by simp⟩
  let mode : Name := ⟨[⟨"mode".toList, by decide⟩], by simp⟩
  let modes : Name := ⟨[⟨"modes".toList, by decide⟩], by simp⟩
  { rules := [
      ⟨mode, ⟨[[.reference switch], [.epsilon]], by simp⟩⟩,
      ⟨switch, ⟨[[.literal ⟨"on".toList, by decide⟩], [.literal ⟨"off".toList, by decide⟩]],
        by simp⟩⟩,
      ⟨modes, ⟨[[.reference mode, .reference mode]], by simp⟩⟩]
    rules_ne_nil := by simp }

/-- A mode has three values. Two of them side by side are not listed, few as they are. -/
theorem enumerates_enumerable_switchModes :
    switchModes.analyze none = .ok (switchModes.analysis 0) ∧
      (∃ values, enumerate? (switchModes.analysis 0) switchModes.typeModel 0 = some values ∧
        values.length = 3 ∧ Enumerates (switchModes.Derives 0) values ∧
          values.Pairwise NamedSelection.Before) ∧
      ¬ (switchModes.typeModel.Enumerable 2 ∧ {tree | switchModes.Derives 2 tree}.encard ≤ 32) := by
  have h : switchModes.analyze none = .ok (switchModes.analysis 0) := by cbv
  refine ⟨h, ?_, ?_⟩
  · have hmode : (enumerate? (switchModes.analysis 0) switchModes.typeModel 0).map List.length =
        some 3 := by decide +kernel
    obtain ⟨values, hvalues, hlength⟩ := Option.map_eq_some_iff.mp hmode
    obtain ⟨_, henumerates, hbefore, _⟩ :=
      (enumerates_enumerable h (by decide : 0 < switchModes.size)).2.2.2 values hvalues
    exact ⟨values, hvalues, hlength, henumerates, hbefore⟩
  · rw [← (enumerates_enumerable h (by decide : 2 < switchModes.size)).2.2.1]
    rintro ⟨values, hvalues⟩
    have hnone : (enumerate? (switchModes.analysis 0) switchModes.typeModel 2).isSome = false := by
      decide +kernel
    simp [hvalues] at hnone

end TypedGrammar
