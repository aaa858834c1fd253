import Mathlib
import TypedGrammar.Proofs.ConstructionShape

/-!
# Mirrored grammars

The mirror image of a grammar has the parts of every alternative in reverse. Its rules have the same names and
refer to the same rules, so that it is closed and productive exactly when the grammar is, and the same rules are
reached. What stands first in one stands last in the other: the corner graphs change places, and with them the
sides on which an alternative refers back to its rule. An alternative of one part has both sides in one place,
where the left one is looked for first.
-/

namespace TypedGrammar

/-- The rule with the parts of each alternative in reverse. -/
def Rule.mirror (r : Rule) : Rule :=
  ⟨r.name, r.alternatives.map List.reverse,
    List.map_eq_nil_iff.not.mpr r.definition.alternatives_ne_nil⟩

/-- The grammar with the parts of each alternative in reverse. -/
def Grammar.mirror (g : Grammar) : Grammar :=
  ⟨g.rules.map Rule.mirror, List.map_eq_nil_iff.not.mpr g.rules_ne_nil⟩

def Side.mirror : Side → Side
  | .left => .right
  | .right => .left
  | .internal => .internal

/-- The class with left and right exchanged. -/
def Recursion.mirror : Recursion → Recursion
  | .nonRecursive => .nonRecursive
  | .left => .right
  | .right => .left
  | .internal => .internal
  | .mixed => .mixed

/-- The graphs with those of first and of last references exchanged. -/
def ReferenceGraphs.mirror (graphs : ReferenceGraphs) : ReferenceGraphs :=
  ⟨graphs.all, graphs.right, graphs.left⟩

@[simp] lemma Rule.name_mirror (r : Rule) : r.mirror.name = r.name := rfl

@[simp] lemma Rule.alternatives_mirror (r : Rule) :
    r.mirror.alternatives = r.alternatives.map List.reverse := rfl

@[simp] lemma Grammar.rules_mirror (g : Grammar) : g.mirror.rules = g.rules.map Rule.mirror := rfl

@[simp] lemma Side.mirror_mirror (side : Side) : side.mirror.mirror = side := by
  cases side <;> rfl

lemma Alternative.references_reverse (a : Alternative) :
    Alternative.references a.reverse = (Alternative.references a).reverse :=
  List.filterMap_reverse

/-! ### Closed and productive grammars -/

namespace Grammar

variable {g : Grammar} {start : Option Name}

@[simp] lemma find?_mirror (g : Grammar) : g.mirror.find? = g.find? := by
  funext name
  rw [find?, rules_mirror, List.findIdx?_map]
  rfl

lemma named_mirror_iff {id : RuleId} {name : Name} : g.mirror.Named id name ↔ g.Named id name := by
  simp [named_iff, Function.comp_def]

lemma exists_refersAt_of_mirror {site : Site} {owner name : Name}
    (h : g.mirror.RefersAt site owner name) : ∃ site', g.RefersAt site' owner name := by
  obtain ⟨r', a', hr', rfl, ha', hpart⟩ := h
  rw [rules_mirror, List.getElem?_map] at hr'
  obtain ⟨r, hr, rfl⟩ := Option.map_eq_some_iff.mp hr'
  rw [Rule.alternatives_mirror, List.getElem?_map] at ha'
  obtain ⟨a, ha, rfl⟩ := Option.map_eq_some_iff.mp ha'
  have hmem : .reference name ∈ a := List.mem_reverse.mp (List.mem_of_getElem? hpart)
  obtain ⟨place, hplace⟩ := List.mem_iff_getElem?.mp hmem
  exact ⟨(site.1, site.2.1, place), r, a, hr, rfl, ha, hplace⟩

lemma closureErrors_mirror (h : g.closureErrors start = []) : g.mirror.closureErrors start = [] := by
  obtain ⟨hdefined, hunique, hstart⟩ := closureErrors_eq_nil_iff.mp h
  refine closureErrors_eq_nil_iff.mpr ⟨fun site owner name hrefers => ?_, ?_, ?_⟩
  · obtain ⟨site', hrefers'⟩ := exists_refersAt_of_mirror hrefers
    simpa only [named_mirror_iff] using hdefined site' owner name hrefers'
  · simpa only [named_mirror_iff] using hunique
  · simpa only [named_mirror_iff] using hstart

lemma startRule_mirror (g : Grammar) (start : Option Name) :
    g.mirror.startRule start = g.startRule start := by
  simp [startRule]

lemma derivesFrom_mirror (g : Grammar) (marks : List Bool) (a : Alternative) :
    g.mirror.derivesFrom marks a.reverse = g.derivesFrom marks a := by
  rw [derivesFrom, derivesFrom, Alternative.references_reverse, List.all_reverse, find?_mirror]

lemma mark_mirror (g : Grammar) (marks : List Bool) (r : Rule × RuleId) :
    g.mirror.mark marks (r.1.mirror, r.2) = g.mark marks r := by
  simp [mark, derivesFrom_mirror, Function.comp_def]

lemma markPass_mirror (g : Grammar) : g.mirror.markPass = g.markPass := by
  funext marks
  rw [markPass, markPass, rules_mirror, List.zipIdx_map, List.foldl_map]
  simp only [Prod.map, id, mark_mirror]

lemma markProductive_mirror (g : Grammar) (marks : List Bool) :
    g.mirror.markProductive marks = g.markProductive marks := by
  fun_induction markProductive g marks with
  | case1 marks h => rw [markProductive, markPass_mirror, dif_pos h]
  | case2 marks h ih => rw [markProductive, markPass_mirror, dif_neg h, ih]

lemma productivityErrors_mirror (g : Grammar) :
    g.mirror.productivityErrors = g.productivityErrors := by
  have hproductive : g.mirror.productive = g.productive := by
    rw [productive, productive, markProductive_mirror]
    simp [size]
  rw [productivityErrors, productivityErrors, hproductive, rules_mirror, List.zip_map_right,
    List.filterMap_map]
  rfl

end Grammar

/-! ### Graphs -/

/-- A graph of a mirrored grammar is the graph of the parts that its parts are mirror images of. -/
lemma RuleGraph.ofParts_mirror {parts parts' : Alternative → List Part}
    (hparts : ∀ a part, part ∈ parts a.reverse ↔ part ∈ parts' a) (rules : List Rule)
    (index : Name → Option RuleId) :
    ofParts parts (rules.map Rule.mirror) index = ofParts parts' rules index := by
  have htargets : ∀ r : Rule, ∀ b, b ∈ r.mirror.targets index parts ↔ b ∈ r.targets index parts' := by
    intro r b
    simp only [mem_targets_iff, Rule.alternatives_mirror, List.mem_map, exists_exists_and_eq_and, hparts]
  simp only [ofParts, List.map_map, List.length_map, Function.comp_def, htargets]

lemma Alternative.mem_reverse_take_one_iff (a : Alternative) (part : Part) :
    part ∈ a.reverse.take 1 ↔ part ∈ a.drop (a.length - 1) := by
  rw [List.take_reverse, List.mem_reverse]

lemma Alternative.mem_reverse_drop_length_iff (a : Alternative) (part : Part) :
    part ∈ a.reverse.drop (a.reverse.length - 1) ↔ part ∈ a.take 1 := by
  have h := mem_reverse_take_one_iff a.reverse part
  rw [List.reverse_reverse] at h
  exact h.symm

namespace Grammar

variable {g : Grammar} {owner : RuleId} {a : Alternative}

lemma leftCorners_mirror (g : Grammar) :
    RuleGraph.leftCorners g.mirror.rules g.mirror.find? = RuleGraph.rightCorners g.rules g.find? := by
  rw [find?_mirror]
  exact RuleGraph.ofParts_mirror Alternative.mem_reverse_take_one_iff _ _

lemma rightCorners_mirror (g : Grammar) :
    RuleGraph.rightCorners g.mirror.rules g.mirror.find? = RuleGraph.leftCorners g.rules g.find? := by
  rw [find?_mirror]
  refine RuleGraph.ofParts_mirror ?_ _ _
  exact Alternative.mem_reverse_drop_length_iff

theorem referenceGraphs_mirror (g : Grammar) :
    g.mirror.referenceGraphs = g.referenceGraphs.mirror := by
  have hall : RuleGraph.build g.mirror.rules g.mirror.find? = RuleGraph.build g.rules g.find? := by
    rw [find?_mirror]
    refine RuleGraph.ofParts_mirror (fun a part => ?_) _ _
    exact List.mem_reverse
  rw [referenceGraphs, hall, leftCorners_mirror, rightCorners_mirror]
  rfl

/-! ### Classes of alternatives -/

/-- Where the first place is not the last, a reference at either of them has one side to be on. -/
lemma sideOf_mirror (graphs : ReferenceGraphs) (owner : RuleId) {last position : ℕ} (hlast : 0 < last)
    (hposition : position ≤ last) (target : RuleId) :
    sideOf graphs.mirror owner last (last - position) target =
      (sideOf graphs owner last position target).map Side.mirror := by
  have hne : last ≠ 0 := Nat.ne_of_gt hlast
  unfold sideOf
  -- The place is the first, the last or one between them.
  by_cases hall : graphs.all.reaches target owner = true
  · rcases Nat.eq_zero_or_pos position with rfl | hpos
    · cases hside : graphs.left.reaches target owner <;>
        simp [ReferenceGraphs.mirror, Side.mirror, hall, hside, hne, hne.symm]
    · rcases Nat.eq_or_lt_of_le hposition with rfl | hlt
      · cases hside : graphs.right.reaches target owner <;>
          simp [ReferenceGraphs.mirror, Side.mirror, hall, hside, hne, hne.symm]
      · have hfirst : last - position ≠ 0 := by omega
        have hend : last - position ≠ last := by omega
        simp [ReferenceGraphs.mirror, Side.mirror, hall, hfirst, hend, hpos.ne', hlt.ne]
  · simp [ReferenceGraphs.mirror, hall]

/-- A side on which an alternative refers back is the other side for its mirror image. -/
lemma mem_sides_reverse {graphs : ReferenceGraphs} {side : Side} (ha : 2 ≤ a.length)
    (h : side ∈ g.sides graphs owner a) : side.mirror ∈ g.sides graphs.mirror owner a.reverse := by
  obtain ⟨position, part, target, hpart, hname, hside⟩ := mem_sides_iff.mp h
  obtain ⟨hlt, _⟩ := List.getElem?_eq_some_iff.mp hpart
  have hposition : a.length - 1 - (a.length - 1 - position) = position := by omega
  refine mem_sides_iff.mpr ⟨a.length - 1 - position, part, target, ?_, hname, ?_⟩
  · rw [List.getElem?_reverse (by omega), hposition, hpart]
  · rw [List.length_reverse, sideOf_mirror graphs owner (by omega) (by omega) target, hside,
      Option.map_some]

lemma mem_sides_reverse_iff {graphs : ReferenceGraphs} {side : Side} (ha : 2 ≤ a.length) :
    side.mirror ∈ g.sides graphs.mirror owner a.reverse ↔ side ∈ g.sides graphs owner a := by
  refine ⟨fun h => ?_, mem_sides_reverse ha⟩
  -- The mirror image of the mirror image is the alternative again.
  have hback := mem_sides_reverse (by rwa [List.length_reverse]) h
  rwa [Side.mirror_mirror, List.reverse_reverse] at hback

end Grammar

/-- Sides that are exchanged give the exchanged class. -/
lemma Recursion.ofSides_mirror {sides sides' : List Side}
    (h : ∀ side : Side, side.mirror ∈ sides' ↔ side ∈ sides) :
    ofSides sides' = (ofSides sides).mirror := by
  have hcontains : ∀ side : Side, sides'.contains side.mirror = sides.contains side := by
    intro side
    rw [Bool.eq_iff_iff, List.contains_iff_mem, List.contains_iff_mem, h]
  have hleft := hcontains .right
  have hright := hcontains .left
  have hinternal := hcontains .internal
  simp only [Side.mirror] at hleft hright hinternal
  unfold ofSides
  rw [hleft, hright, hinternal]
  cases sides.contains .left <;> cases sides.contains .right <;> cases sides.contains .internal <;> rfl

namespace Grammar

variable {g : Grammar} {start : Option Name} {a : Alternative}

theorem classify_reverse (g : Grammar) (graphs : ReferenceGraphs) (owner : RuleId)
    (ha : 2 ≤ a.length) :
    g.classify graphs.mirror owner a.reverse = (g.classify graphs owner a).mirror :=
  Recursion.ofSides_mirror fun _ => mem_sides_reverse_iff ha

lemma classify_mirror (g : Grammar) : g.mirror.classify = g.classify := by
  funext graphs owner a
  rw [classify, classify, sides, sides, find?_mirror]

/-! ### The analysis -/

lemma analyze_mirror_eq_ok {analysis : Analysis} (h : g.analyze start = .ok analysis) :
    g.mirror.analyze start = .ok (g.mirror.analysis analysis.start) := by
  obtain ⟨rfl, hclosure, hproductivity⟩ := analyze_eq_ok h
  have hclosure' := closureErrors_mirror hclosure
  have hproductivity' := g.productivityErrors_mirror.trans hproductivity
  rw [analyze, if_neg (not_not.mpr hclosure'), if_neg (not_not.mpr hproductivity'), startRule_mirror]
  rfl

lemma graph_analysis_mirror (g : Grammar) (start : RuleId) :
    (g.mirror.analysis start).graph = (g.analysis start).graph := by
  change g.mirror.referenceGraphs.all = g.referenceGraphs.all
  rw [referenceGraphs_mirror]
  rfl

/-- Which rules are reached is told by the graph of all references and the number of rules. -/
lemma map_reachable_summaries (g : Grammar) (start : RuleId) :
    (g.analysis start).summaries.map (·.reachable) =
      (List.range' 0 g.size).map fun id =>
        ((g.analysis start).graph.reachableFrom start).contains id := by
  rw [size, ← List.zipIdx_map_snd, List.map_map]
  exact List.map_map

lemma map_reachable_summaries_mirror (g : Grammar) (start : RuleId) :
    (g.mirror.analysis start).summaries.map (·.reachable) =
      (g.analysis start).summaries.map (·.reachable) := by
  rw [map_reachable_summaries, map_reachable_summaries, graph_analysis_mirror, size, rules_mirror,
    List.length_map, size]

lemma map_name_rules_mirror (g : Grammar) :
    g.mirror.rules.map Rule.name = g.rules.map Rule.name :=
  List.map_map

lemma rule_mirror (g : Grammar) (id : RuleId) : g.mirror.rule id = (g.rule id).mirror := by
  simp only [rule, rules_mirror, List.getElem?_map, List.head_map, Option.getD_map]

lemma ruleName_analysis_mirror (g : Grammar) (start id : RuleId) :
    (g.mirror.analysis start).ruleName id = (g.analysis start).ruleName id := by
  change (g.mirror.rule id).name = (g.rule id).name
  rw [rule_mirror, Rule.name_mirror]

/-- The warnings name the rules that are not reached. -/
lemma warnings_eq (analysis : Analysis) :
    analysis.warnings = ((analysis.grammar.rules.map Rule.name).zip
        (analysis.summaries.map (·.reachable))).filterMap fun entry =>
      if entry.2 then none else some ⟨entry.1, analysis.ruleName analysis.start⟩ := by
  rw [Analysis.warnings, List.zip_map, List.filterMap_map]
  rfl

lemma warnings_analysis_mirror (g : Grammar) (start : RuleId) :
    (g.mirror.analysis start).warnings = (g.analysis start).warnings := by
  have hnames : (g.mirror.analysis start).grammar.rules.map Rule.name =
      (g.analysis start).grammar.rules.map Rule.name := g.map_name_rules_mirror
  rw [warnings_eq, warnings_eq, hnames, map_reachable_summaries_mirror, ruleName_analysis_mirror]
  rfl

/-- The classes of an alternative and of its mirror image, at its place in the rule. -/
lemma recursion_analysis_mirror {id i : ℕ} {r : Rule} (hr : g.rules[id]? = some r)
    (ha : r.alternatives[i]? = some a) (hlength : 2 ≤ a.length) (start : RuleId) :
    ∃ c, ((g.analysis start).recursion id)[i]? = some c ∧
      ((g.mirror.analysis start).recursion id)[i]? = some c.mirror := by
  have hmirror : g.mirror.rules[id]? = some r.mirror := by
    rw [rules_mirror, List.getElem?_map, hr, Option.map_some]
  refine ⟨g.classify g.referenceGraphs id a, ?_, ?_⟩
  · rw [recursion_analysis hr, List.getElem?_map, ha, Option.map_some]
  · rw [recursion_analysis hmirror, Rule.alternatives_mirror, List.getElem?_map, List.getElem?_map, ha,
      Option.map_some, Option.map_some, classify_mirror, referenceGraphs_mirror,
      classify_reverse g _ id hlength]

/-- Left and right are mirror images. With a grammar its mirror image is accepted, from the same start and
with the same rules reached, warnings and graph of references; the corner graphs change places; and an
alternative of at least two parts has the class of its mirror image with left and right exchanged. -/
theorem analyze_mirror {analysis : Analysis} (h : g.analyze start = .ok analysis) :
    ∃ mirrored, g.mirror.analyze start = .ok mirrored ∧
      mirrored.start = analysis.start ∧
      mirrored.summaries.map (·.reachable) = analysis.summaries.map (·.reachable) ∧
      mirrored.warnings = analysis.warnings ∧
      mirrored.graph = analysis.graph ∧
      RuleGraph.leftCorners g.mirror.rules g.mirror.find? = RuleGraph.rightCorners g.rules g.find? ∧
      RuleGraph.rightCorners g.mirror.rules g.mirror.find? = RuleGraph.leftCorners g.rules g.find? ∧
      ∀ (id i : ℕ) (r : Rule) (alternative : Alternative), g.rules[id]? = some r →
        r.alternatives[i]? = some alternative → 2 ≤ alternative.length →
        ∃ c : Recursion, (analysis.recursion id)[i]? = some c ∧
          (mirrored.recursion id)[i]? = some c.mirror := by
  have hmirrored := analyze_mirror_eq_ok h
  obtain ⟨rfl, _⟩ := analyze_eq_ok h
  exact ⟨_, hmirrored, rfl, map_reachable_summaries_mirror g _, warnings_analysis_mirror g _,
    graph_analysis_mirror g _, leftCorners_mirror g, rightCorners_mirror g,
    fun id i r alternative hr ha hlength => recursion_analysis_mirror hr ha hlength _⟩

/-- Numbers that begin with a number are to end with one. -/
theorem analyze_mirror_nestedNumbers :
    ∃ mirrored, nestedNumbers.mirror.analyze none = .ok mirrored ∧
      ((nestedNumbers.analysis 0).recursion 1)[1]? = some .left ∧
      (mirrored.recursion 1)[1]? = some .right := by
  have h : nestedNumbers.analyze none = .ok (nestedNumbers.analysis 0) := by cbv
  obtain ⟨mirrored, hmirrored, _, _, _, _, _, _, hclass⟩ := analyze_mirror h
  obtain ⟨c, hc, hc'⟩ := hclass 1 1 _ _ rfl rfl (by decide)
  have hleft : ((nestedNumbers.analysis 0).recursion 1)[1]? = some .left := by decide +kernel
  cases hc.symm.trans hleft
  exact ⟨mirrored, hmirrored, hleft, hc'⟩

end Grammar

end TypedGrammar
