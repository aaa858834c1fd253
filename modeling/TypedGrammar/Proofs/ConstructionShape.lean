import Mathlib
import TypedGrammar.Proofs.ProductiveRule
import TypedGrammar.Proofs.ReferencePath

/-!
# What the shape of a rule says

The classes of recursion come from three graphs, but the shape of a rule depends on the paths of
references alone: a rule is flat when none leads back to it, and a left recursive sequence when its
alternatives that lead back do so by a reference to the rule in front of something that does not. An
alternative of the other kind is there in each rule that has a derivation tree.
-/

namespace TypedGrammar

namespace Recursion

variable {sides : List Side}

lemma ofSides_eq_nonRecursive_iff : ofSides sides = .nonRecursive ↔ sides = [] := by
  constructor
  · intro h
    refine List.eq_nil_iff_forall_not_mem.mpr fun side hside => ?_
    unfold ofSides at h
    split at h
    · rename_i hleft hright hinternal
      have hcontains := List.contains_iff_mem.mpr hside
      cases side with
      | left => exact absurd (hleft.symm.trans hcontains) Bool.false_ne_true
      | right => exact absurd (hright.symm.trans hcontains) Bool.false_ne_true
      | internal => exact absurd (hinternal.symm.trans hcontains) Bool.false_ne_true
    all_goals cases h
  · rintro rfl
    rfl

/-- What refers back on the left only is left recursive; anything else besides makes it mixed. -/
lemma ofSides_left_cons_iff (h : .left ∉ sides) : ofSides (.left :: sides) = .left ↔ sides = [] := by
  constructor
  · intro hclass
    refine List.eq_nil_iff_forall_not_mem.mpr fun side hside => ?_
    cases side with
    | left => exact h hside
    | right => simp [ofSides, hside] at hclass
    | internal => simp [ofSides, hside] at hclass
  · rintro rfl
    rfl

end Recursion

namespace Grammar

variable {g : Grammar} {start : Option Name} {id owner : RuleId} {r : Rule} {a : Alternative}

/-- The part refers to a rule from which a path of references leads to `owner`. -/
def LeadsBack (g : Grammar) (owner : RuleId) (part : Part) : Prop :=
  ∃ name target, part = .reference name ∧ g.find? name = some target ∧
    Relation.ReflTransGen g.Refers target owner

/-- No part of the alternative leads back to `owner`. -/
def IsBase (g : Grammar) (owner : RuleId) (a : Alternative) : Prop :=
  ∀ part ∈ a, ¬ g.LeadsBack owner part

/-- The alternative is a reference to `owner` and at least one part more, and none of the parts after
the first leads back to `owner`. -/
def IsGrowth (g : Grammar) (owner : RuleId) (a : Alternative) : Prop :=
  ∃ name part parts, a = .reference name :: part :: parts ∧ g.find? name = some owner ∧
    g.IsBase owner (part :: parts)

/-! ### Classes of alternatives -/

/-- The side on which a part at its place leads back to `owner`. -/
def sideAt? (g : Grammar) (owner : RuleId) (last : ℕ) (part : Part × ℕ) : Option Side :=
  (part.1.reference?.bind g.find?).bind (sideOf g.referenceGraphs owner last part.2)

lemma classify_eq_ofSides (owner : RuleId) (a : Alternative) :
    g.classify g.referenceGraphs owner a =
      .ofSides (a.zipIdx.filterMap (g.sideAt? owner (a.length - 1))) :=
  rfl

lemma mem_sides_iff {graphs : ReferenceGraphs} {side : Side} :
    side ∈ g.sides graphs owner a ↔ ∃ position part target, a[position]? = some part ∧
      part.reference?.bind g.find? = some target ∧
      sideOf graphs owner (a.length - 1) position target = some side := by
  simp only [sides, List.mem_filterMap, Option.bind_eq_some_iff, Prod.exists,
    List.mem_zipIdx_iff_getElem?]
  constructor
  · rintro ⟨part, position, hpart, target, hname, hside⟩
    exact ⟨position, part, target, hpart, hname, hside⟩
  · rintro ⟨position, part, target, hpart, hname, hside⟩
    exact ⟨part, position, hpart, target, hname, hside⟩

lemma sideOf_eq_none_iff {graphs : ReferenceGraphs} {last position : ℕ} {target : RuleId} :
    sideOf graphs owner last position target = none ↔ ¬ graphs.all.reaches target owner = true := by
  unfold sideOf
  split
  · simp_all
  · split
    · simp_all
    · split <;> simp_all

lemma sideOf_ne_left {graphs : ReferenceGraphs} {last position : ℕ} (h : position ≠ 0)
    (target : RuleId) : sideOf graphs owner last position target ≠ some .left := by
  unfold sideOf
  split
  · simp
  · split
    · simp_all
    · split <;> simp

lemma sideAt?_eq_none_iff {last position : ℕ} {part : Part} :
    g.sideAt? owner last (part, position) = none ↔ ¬ g.LeadsBack owner part := by
  cases part with
  | literal text => simp [sideAt?, Part.reference?, LeadsBack]
  | epsilon => simp [sideAt?, Part.reference?, LeadsBack]
  | reference name =>
    cases hname : g.find? name with
    | none => simp [sideAt?, Part.reference?, LeadsBack, hname]
    | some target =>
      have hpath := g.traces_referenceGraph.reaches_iff target (lt_of_find? hname) owner
      simp [sideAt?, Part.reference?, LeadsBack, hname, sideOf_eq_none_iff, hpath]

lemma filterMap_sideAt?_eq_nil_iff {last place : ℕ} :
    (a.zipIdx place).filterMap (g.sideAt? owner last) = [] ↔ g.IsBase owner a := by
  rw [List.filterMap_eq_nil_iff]
  constructor
  · intro h part hpart
    obtain ⟨i, hi, rfl⟩ := List.mem_iff_getElem.mp hpart
    exact sideAt?_eq_none_iff.mp
      (h (a[i], place + i) (List.mk_add_mem_zipIdx_iff_getElem?.mpr (List.getElem?_eq_getElem hi)))
  · rintro h ⟨part, position⟩ hmem
    exact sideAt?_eq_none_iff.mpr (h part (List.fst_mem_of_mem_zipIdx hmem))

/-- An alternative is classified as not recursive when no part of it leads back. -/
theorem classify_eq_nonRecursive_iff :
    g.classify g.referenceGraphs owner a = .nonRecursive ↔ g.IsBase owner a := by
  rw [classify_eq_ofSides, Recursion.ofSides_eq_nonRecursive_iff, filterMap_sideAt?_eq_nil_iff]

lemma reaches_self {h : Digraph} (hid : id < h.size) : h.reaches id id = true :=
  Digraph.reaches_iff.mpr ⟨hid, .refl⟩

/-- After a reference to the owner, which leads back on the left, the parts are not to lead back. -/
lemma classify_reference_cons_iff {name : Name} {parts : List Part}
    (hname : g.find? name = some owner) :
    g.classify g.referenceGraphs owner (.reference name :: parts) = .left ↔ g.IsBase owner parts := by
  have howner : owner < g.rules.length := lt_of_find? hname
  have hall : g.referenceGraphs.all.reaches owner owner = true :=
    reaches_self (by rwa [Digraph.size, referenceGraphs, RuleGraph.build, RuleGraph.ofParts,
      List.length_map])
  have hleft : g.referenceGraphs.left.reaches owner owner = true :=
    reaches_self (by rwa [Digraph.size, referenceGraphs, RuleGraph.leftCorners, RuleGraph.ofParts,
      List.length_map])
  have hfirst (last : ℕ) : g.sideAt? owner last (.reference name, 0) = some .left := by
    simp [sideAt?, Part.reference?, hname, sideOf, hall, hleft]
  have hrest (last : ℕ) : .left ∉ (parts.zipIdx 1).filterMap (g.sideAt? owner last) := by
    intro hmem
    obtain ⟨⟨part, position⟩, hpart, hside⟩ := List.mem_filterMap.mp hmem
    obtain ⟨target, _, hside⟩ := Option.bind_eq_some_iff.mp hside
    have hposition : position ≠ 0 := Nat.ne_of_gt (List.le_snd_of_mem_zipIdx hpart)
    exact sideOf_ne_left hposition target hside
  rw [classify_eq_ofSides, List.zipIdx_cons, List.filterMap_cons_some (hfirst _),
    Recursion.ofSides_left_cons_iff (hrest _), filterMap_sideAt?_eq_nil_iff]

/-- An alternative grows a value when it is left recursive and extends one. -/
theorem isGrowth_iff :
    g.IsGrowth owner a ↔
      g.classify g.referenceGraphs owner a = .left ∧ g.extends? owner a = true := by
  constructor
  · rintro ⟨name, part, parts, rfl, hname, hbase⟩
    exact ⟨(classify_reference_cons_iff hname).mpr hbase, by simp [extends?, hname]⟩
  · rintro ⟨hclass, hextends⟩
    unfold extends? at hextends
    split at hextends
    · rename_i name part parts
      have hname : g.find? name = some owner := by simpa using hextends
      exact ⟨name, part, parts, rfl, hname, (classify_reference_cons_iff hname).mp hclass⟩
    · cases hextends

/-! ### Shapes of rules -/

lemma mem_zip_map_iff {c : Recursion} {alternatives : List Alternative}
    {classOf : Alternative → Recursion} :
    (a, c) ∈ alternatives.zip (alternatives.map classOf) ↔ a ∈ alternatives ∧ c = classOf a := by
  rw [← List.map_prod_left_eq_zip, List.mem_map]
  constructor
  · rintro ⟨_, ha, heq⟩
    cases heq
    exact ⟨ha, rfl⟩
  · rintro ⟨ha, rfl⟩
    exact ⟨a, ha, rfl⟩

open Classical in
/-- The shape of a rule, from the paths of references that lead its alternatives back to it. -/
theorem shape_analysis_eq_ite (start : RuleId) (hr : g.rules[id]? = some r) :
    (g.analysis start).shape id =
      if ∀ a ∈ r.alternatives, g.IsBase id a then .flat
      else if (∀ a ∈ r.alternatives, g.IsBase id a ∨ g.IsGrowth id a) ∧
          ∃ a ∈ r.alternatives, g.IsBase id a then .leftRecursiveSequence
      else .general := by
  rw [shape_analysis hr, recursion_analysis hr, shapeOf]
  simp only [← classify_eq_nonRecursive_iff, isGrowth_iff]
  refine if_congr ?_ rfl (if_congr ?_ rfl rfl)
  · simp only [List.all_eq_true, Prod.forall, mem_zip_map_iff]
    simp
  · simp only [Bool.and_eq_true, List.all_eq_true, List.any_eq_true, Prod.forall, Prod.exists,
      mem_zip_map_iff]
    simp

/-- A rule is free of recursion when no path of references leads from it back to it. -/
lemma forall_isBase_iff (hr : g.rules[id]? = some r) :
    (∀ a ∈ r.alternatives, g.IsBase id a) ↔ ¬ Relation.TransGen g.Refers id id := by
  rw [Relation.TransGen.head'_iff]
  constructor
  · rintro hbase ⟨target, ⟨r', a, place, name, hr', ha, _, hpart, hname⟩, hpath⟩
    cases hr.symm.trans hr'
    exact hbase a ha _ (List.mem_of_getElem? hpart) ⟨name, target, rfl, hname, hpath⟩
  · rintro hcycle a ha part hpart ⟨name, target, rfl, hname, hpath⟩
    obtain ⟨place, hplace⟩ := List.mem_iff_getElem?.mp hpart
    exact hcycle ⟨target, ⟨r, a, place, name, hr, ha, trivial, hplace, hname⟩, hpath⟩

lemma shape_analysis_eq_flat_iff {start : RuleId} (hr : g.rules[id]? = some r) :
    (g.analysis start).shape id = .flat ↔ ∀ a ∈ r.alternatives, g.IsBase id a := by
  have hshape := shape_analysis_eq_ite start hr
  constructor
  · intro hflat
    by_contra hbase
    rw [hflat, if_neg hbase] at hshape
    split at hshape <;> cases hshape
  · intro hbase
    rw [hshape, if_pos hbase]

/-- A tree of a rule whose alternatives all refer to it would hold a smaller one without end. -/
lemma not_derives_of_forall_references (hr : g.rules[id]? = some r)
    (hself : ∀ a ∈ r.alternatives, ∃ name ∈ Alternative.references a, g.find? name = some id)
    (tree : DerivationTree) : ¬ g.Derives id tree := by
  induction tree using DerivationTree.induct with
  | node rule alternative children ih =>
    rintro ⟨hr', ha, htargets, hchildren⟩
    cases hr.symm.trans hr'
    obtain ⟨name, hname, hid⟩ := hself _ (List.mem_of_getElem? ha)
    have hmem := List.mem_map_of_mem (f := g.find?) hname
    rw [htargets, hid] at hmem
    obtain ⟨target, htarget, heq⟩ := List.mem_map.mp hmem
    cases heq
    obtain ⟨i, hi, hget⟩ := List.mem_iff_getElem.mp htarget
    obtain ⟨hlength, hforall⟩ := List.forall₂_iff_get.mp hchildren
    have hi' : i < children.length := hlength ▸ hi
    have hchild := hforall i hi hi'
    rw [List.get_eq_getElem, hget] at hchild
    exact ih _ (List.getElem_mem hi') hchild

/-- Where a rule has a tree not all of its alternatives can grow one. -/
lemma exists_isBase (hr : g.rules[id]? = some r) (htree : ∃ tree, g.Derives id tree)
    (h : ∀ a ∈ r.alternatives, g.IsBase id a ∨ g.IsGrowth id a) :
    ∃ a ∈ r.alternatives, g.IsBase id a := by
  by_contra hnone
  obtain ⟨tree, htree⟩ := htree
  refine not_derives_of_forall_references hr (fun a ha => ?_) tree htree
  obtain ⟨name, part, parts, rfl, hname, _⟩ := (h a ha).resolve_left fun hbase => hnone ⟨a, ha, hbase⟩
  exact ⟨name, List.mem_cons_self, hname⟩

/-- The three shapes of a rule that has a derivation tree. -/
lemma shape_analysis_iff (start : RuleId) (hr : g.rules[id]? = some r)
    (htree : ∃ tree, g.Derives id tree) :
    ((g.analysis start).shape id = .flat ↔ ∀ a ∈ r.alternatives, g.IsBase id a) ∧
    ((g.analysis start).shape id = .leftRecursiveSequence ↔
      (¬ ∀ a ∈ r.alternatives, g.IsBase id a) ∧
        ∀ a ∈ r.alternatives, g.IsBase id a ∨ g.IsGrowth id a) ∧
    ((g.analysis start).shape id = .general ↔
      (¬ ∀ a ∈ r.alternatives, g.IsBase id a) ∧
        ¬ ∀ a ∈ r.alternatives, g.IsBase id a ∨ g.IsGrowth id a) := by
  refine ⟨shape_analysis_eq_flat_iff hr, ?_⟩
  have hshape := shape_analysis_eq_ite start hr
  by_cases hflat : ∀ a ∈ r.alternatives, g.IsBase id a
  · rw [if_pos hflat] at hshape
    rw [hshape]
    exact ⟨iff_of_false nofun fun h => h.1 hflat, iff_of_false nofun fun h => h.1 hflat⟩
  · rw [if_neg hflat] at hshape
    by_cases hsequence : ∀ a ∈ r.alternatives, g.IsBase id a ∨ g.IsGrowth id a
    · rw [if_pos ⟨hsequence, exists_isBase hr htree hsequence⟩] at hshape
      rw [hshape]
      exact ⟨iff_of_true rfl ⟨hflat, hsequence⟩, iff_of_false nofun fun h => h.2 hsequence⟩
    · rw [if_neg fun h => hsequence h.1] at hshape
      rw [hshape]
      exact ⟨iff_of_false nofun fun h => hsequence h.2, iff_of_true rfl ⟨hflat, hsequence⟩⟩

/-- Only rules of the grammar have another shape than the general one. -/
lemma lt_of_shape_ne_general {rule start : RuleId}
    (h : (g.analysis start).shape rule ≠ .general) : rule < g.size := by
  by_contra hrule
  exact h (shape_analysis_of_none (List.getElem?_eq_none (Nat.le_of_not_lt hrule)))

/-- Shapes mean what they say. A rule is flat when it does not refer to itself over any number of rules,
that is, when none of its alternatives is recursive. It is a left recursive sequence when it is not flat
and each alternative leads back to it nowhere or only at its front, by a reference to the rule itself
that is not all of it; some alternative leads back nowhere then. Any other rule is general. -/
theorem analyze_shapes {analysis : Analysis} (h : g.analyze start = .ok analysis)
    (hr : g.rules[id]? = some r) :
    (analysis.shape id = .flat ↔ analysis.graph.isCyclic id = false) ∧
    (analysis.graph.isCyclic id = false ↔ ¬ Relation.TransGen g.Refers id id) ∧
    (analysis.shape id = .flat ↔
      analysis.recursion id = List.replicate r.alternatives.length .nonRecursive) ∧
    (analysis.shape id = .leftRecursiveSequence ↔ analysis.shape id ≠ .flat ∧
      ∀ a ∈ r.alternatives, g.IsBase id a ∨ g.IsGrowth id a) ∧
    (analysis.shape id = .leftRecursiveSequence → ∃ a ∈ r.alternatives, g.IsBase id a) ∧
    (analysis.shape id = .general ↔ analysis.shape id ≠ .flat ∧
      ∃ a ∈ r.alternatives, ¬ g.IsBase id a ∧ ¬ g.IsGrowth id a) := by
  obtain ⟨rfl, _, hproductive⟩ := analyze_eq_ok h
  obtain ⟨hid, _⟩ := List.getElem?_eq_some_iff.mp hr
  have htree := productivityErrors_eq_nil_iff.mp hproductive id hid
  have hcyclic : (g.analysis (g.startRule start)).graph.isCyclic id = false ↔
      ∀ a ∈ r.alternatives, g.IsBase id a := by
    rw [forall_isBase_iff hr, ← g.traces_referenceGraph.isCyclic_iff, Bool.not_eq_true]
    rfl
  have hrecursion : (g.analysis (g.startRule start)).recursion id =
      List.replicate r.alternatives.length .nonRecursive ↔ ∀ a ∈ r.alternatives, g.IsBase id a := by
    rw [recursion_analysis hr, List.eq_replicate_iff]
    simp [classify_eq_nonRecursive_iff]
  obtain ⟨hflat, hsequence, hgeneral⟩ := shape_analysis_iff (g.startRule start) hr htree
  rw [← hflat] at hcyclic hrecursion hsequence hgeneral
  refine ⟨hcyclic.symm, ?_, hrecursion.symm, hsequence, ?_, ?_⟩
  · rw [hcyclic, hflat, forall_isBase_iff hr]
  · intro h
    exact exists_isBase hr htree (hsequence.mp h).2
  · rw [hgeneral]
    simp only [not_forall, not_or, exists_prop, ne_eq]

/-- Numbers grow by a digit, and groups, which hold another group between parentheses, do not. -/
theorem analyze_shapes_nestedNumbers :
    nestedNumbers.analyze none = .ok (nestedNumbers.analysis 0) ∧
      (∃ r, nestedNumbers.rules[1]? = some r ∧ Relation.TransGen nestedNumbers.Refers 1 1 ∧
        (∀ a ∈ r.alternatives, nestedNumbers.IsBase 1 a ∨ nestedNumbers.IsGrowth 1 a) ∧
          ∃ a ∈ r.alternatives, nestedNumbers.IsBase 1 a) ∧
      ∃ r, nestedNumbers.rules[2]? = some r ∧
        ∃ a ∈ r.alternatives, ¬ nestedNumbers.IsBase 2 a ∧ ¬ nestedNumbers.IsGrowth 2 a := by
  have h : nestedNumbers.analyze none = .ok (nestedNumbers.analysis 0) := by cbv
  obtain ⟨number, hnumber⟩ : ∃ r, nestedNumbers.rules[1]? = some r := ⟨_, rfl⟩
  obtain ⟨group, hgroup⟩ : ∃ r, nestedNumbers.rules[2]? = some r := ⟨_, rfl⟩
  refine ⟨h, ⟨number, hnumber, ?_⟩, group, hgroup, ?_⟩
  · obtain ⟨_, hcyclic, _, hsequence, hbase, _⟩ := analyze_shapes h hnumber
    have hshape : (nestedNumbers.analysis 0).shape 1 = .leftRecursiveSequence := by decide +kernel
    refine ⟨?_, (hsequence.mp hshape).2, hbase hshape⟩
    by_contra hpath
    exact absurd (hcyclic.mpr hpath) (by decide +kernel)
  · obtain ⟨_, _, _, _, _, hgeneral⟩ := analyze_shapes h hgroup
    exact (hgeneral.mp (by decide +kernel)).2

end Grammar

end TypedGrammar
