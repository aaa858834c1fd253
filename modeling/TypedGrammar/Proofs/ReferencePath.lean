import Mathlib
import TypedGrammar.Proofs.BuilderDerivation
import TypedGrammar.Proofs.ClosedGrammar
import TypedGrammar.Proofs.ReachableVertex

/-!
# Paths of references

A rule refers to another when a part of one of its alternatives names it, where only the parts at some
places may count. `Traces` says that a graph has the edges of such a relation and finds the paths along
them, with a path of no steps or without. The three graphs of rules do so for whatever index leads from
the names to the rules, and the analysis warns of the rules that no path from its start leads to.
-/

namespace TypedGrammar

/-- The list holds the numbers with the property, ascending and each of them once. -/
def Lists (property : ℕ → Prop) (l : List ℕ) : Prop :=
  l.Pairwise (· < ·) ∧ ∀ x, x ∈ l ↔ property x

namespace Digraph

/-- The successors are what the relation leads to, and the closures are the paths along it between
numbers below `size`. -/
structure Traces (g : Digraph) (size : ℕ) (relation : ℕ → ℕ → Prop) : Prop where
  successors : ∀ a, Lists (relation a) (g.successors a)
  reaches_iff : ∀ a < size, ∀ b, g.reaches a b = true ↔ Relation.ReflTransGen relation a b
  reachableFrom : ∀ a < size, Lists (Relation.ReflTransGen relation a) (g.reachableFrom a)
  isCyclic_iff : ∀ a, g.isCyclic a = true ↔ Relation.TransGen relation a a

variable {g : Digraph} {relation : ℕ → ℕ → Prop} {a b : ℕ}

lemma isCyclic_iff_transGen : g.isCyclic a = true ↔ Relation.TransGen g.Edge a a := by
  rw [isCyclic, List.any_eq_true, Relation.TransGen.head'_iff]
  refine exists_congr fun b => and_congr_right fun (hedge : g.Edge a b) => ?_
  rw [reaches_iff]
  exact and_iff_right hedge.lt

/-- A graph whose successors are those of the relation traces it. -/
theorem traces_of_successors (hsuccessors : ∀ a, Lists (relation a) (g.successors a))
    (hsize : ∀ a b, relation a b → b < g.size) : g.Traces g.size relation := by
  have hedge : g.Edge = relation := by
    funext a b
    exact propext ((hsuccessors a).2 b)
  subst hedge
  have hpath : ∀ {a b}, a < g.size → g.Path a b → b < g.size := by
    intro a b ha h
    rcases Relation.ReflTransGen.cases_tail h with rfl | ⟨c, _, hlast⟩
    · exact ha
    · exact hsize c b hlast
  have hreaches : ∀ a < g.size, ∀ b, g.reaches a b = true ↔ Relation.ReflTransGen g.Edge a b := by
    intro a ha b
    rw [reaches_iff]
    exact and_iff_right_of_imp (hpath ha)
  constructor
  · exact hsuccessors
  · exact hreaches
  · intro a ha
    refine ⟨List.pairwise_lt_range.filter _, fun b => ?_⟩
    rw [mem_reachableFrom, hreaches a ha]
  · intro a
    exact isCyclic_iff_transGen

end Digraph

/-! ### Graphs of rules -/

/-- An alternative of the rule `a` refers to the rule `b` at a place that counts. -/
def RefersAtPlace (counts : Alternative → ℕ → Prop) (rules : List Rule)
    (index : Name → Option RuleId) (a b : RuleId) : Prop :=
  ∃ r alternative place name, rules[a]? = some r ∧ alternative ∈ r.alternatives ∧
    counts alternative place ∧ alternative[place]? = some (.reference name) ∧ index name = some b

namespace RuleGraph

variable {rules : List Rule} {index : Name → Option RuleId}

lemma mem_targets_iff {r : Rule} {parts : Alternative → List Part} {b : RuleId} :
    b ∈ r.targets index parts ↔
      ∃ alternative ∈ r.alternatives, ∃ name, .reference name ∈ parts alternative ∧
        index name = some b := by
  simp only [Rule.targets, List.mem_flatMap, List.mem_filterMap, Option.bind_eq_some_iff]
  refine exists_congr fun alternative => and_congr_right fun _ => ?_
  constructor
  · rintro ⟨part, hpart, name, hname, hb⟩
    cases part with
    | reference other =>
      cases hname
      exact ⟨name, hpart, hb⟩
    | literal text => cases hname
    | epsilon => cases hname
  · rintro ⟨name, hpart, hb⟩
    exact ⟨_, hpart, name, rfl, hb⟩

/-- A graph of rules traces the references at the places of the parts that it is made from. -/
theorem traces_ofParts {parts : Alternative → List Part} {counts : Alternative → ℕ → Prop}
    (hparts : ∀ a part, part ∈ parts a ↔ ∃ place, counts a place ∧ a[place]? = some part)
    (hindex : ∀ name id, index name = some id → id < rules.length) :
    (ofParts parts rules index).Traces rules.length (RefersAtPlace counts rules index) := by
  have hsize : (ofParts parts rules index).size = rules.length := List.length_map _
  rw [← hsize]
  refine Digraph.traces_of_successors (fun a => ⟨?_, fun b => ?_⟩) ?_
  · cases hr : rules[a]? with
    | none => simp [Digraph.successors, ofParts, hr]
    | some r => simpa [Digraph.successors, ofParts, hr] using List.pairwise_lt_range.filter _
  · change (ofParts parts rules index).Edge a b ↔ _
    rw [edge_ofParts_iff]
    constructor
    · rintro ⟨_, r, hr, hb⟩
      obtain ⟨alternative, ha, name, hname, hb⟩ := mem_targets_iff.mp hb
      obtain ⟨place, hplace, hpart⟩ := (hparts alternative _).mp hname
      exact ⟨r, alternative, place, name, hr, ha, hplace, hpart, hb⟩
    · rintro ⟨r, alternative, place, name, hr, ha, hplace, hpart, hb⟩
      refine ⟨hindex name b hb, r, hr, mem_targets_iff.mpr ⟨alternative, ha, name, ?_, hb⟩⟩
      exact (hparts alternative _).mpr ⟨place, hplace, hpart⟩
  · rintro a b ⟨_, _, _, name, _, _, _, _, hb⟩
    rw [hsize]
    exact hindex name b hb

end RuleGraph

namespace Alternative

lemma mem_take_one_iff (a : Alternative) (part : Part) :
    part ∈ a.take 1 ↔ ∃ place, place = 0 ∧ a[place]? = some part := by
  cases a <;> simp [eq_comm]

lemma mem_drop_length_iff (a : Alternative) (part : Part) :
    part ∈ a.drop (a.length - 1) ↔ ∃ place, place + 1 = a.length ∧ a[place]? = some part := by
  rcases List.eq_nil_or_concat' a with rfl | ⟨parts, last, rfl⟩
  · simp
  · simp [eq_comm]

end Alternative

/-! ### Warnings of an analysis -/

namespace Grammar

variable {g : Grammar}

/-- Some alternative of the rule `a` refers to the rule `b`. -/
def Refers (g : Grammar) : RuleId → RuleId → Prop :=
  RefersAtPlace (fun _ _ => True) g.rules g.find?

/-- The warning for a rule that no path of references from the rule `start` leads to. -/
def UnreachableAt (g : Grammar) (start id : RuleId) (warning : Warning) : Prop :=
  ∃ r s, g.rules[id]? = some r ∧ g.rules[start]? = some s ∧
    ¬ Relation.ReflTransGen g.Refers start id ∧ warning = ⟨r.name, s.name⟩

lemma traces_referenceGraph (g : Grammar) : g.referenceGraphs.all.Traces g.size g.Refers :=
  RuleGraph.traces_ofParts (fun a part => by simp [List.mem_iff_getElem?])
    fun _ _ hname => lt_of_find? hname

lemma startRule_lt {start : Option Name} (h : g.closureErrors start = []) :
    g.startRule start < g.size := by
  cases start with
  | none => exact List.length_pos_iff.mpr g.rules_ne_nil
  | some name =>
    obtain ⟨id, hid⟩ := (closureErrors_eq_nil_iff.mp h).2.2 name rfl
    have hfind := (find?_eq_some_iff_of_closureErrors h hid).1
    have hstart : g.startRule (some name) = id := by simp [startRule, hfind]
    rw [hstart]
    exact lt_of_find? hfind

/-- The analysis marks the rules that a path of references from its start leads to. -/
lemma reachable_iff_of_summary {start id : RuleId} (hstart : start < g.size) {summary : RuleSummary}
    (h : (g.analysis start).summaries[id]? = some summary) :
    summary.reachable = true ↔ Relation.ReflTransGen g.Refers start id := by
  obtain ⟨hlt, _⟩ := List.getElem?_eq_some_iff.mp h
  have hid : id < g.rules.length := by simpa [analysis] using hlt
  rw [getElem?_summaries (List.getElem?_eq_getElem hid)] at h
  cases h
  rw [summarize, List.contains_iff_mem]
  exact (g.traces_referenceGraph.reachableFrom start hstart).2 id

lemma reports_warnings {start : RuleId} (hstart : start < g.size) :
    Reports (· < ·) (g.UnreachableAt start) (g.analysis start).warnings := by
  obtain ⟨s, hs⟩ : ∃ s, g.rules[start]? = some s := ⟨_, List.getElem?_eq_getElem hstart⟩
  have hname : (g.analysis start).ruleName (g.analysis start).start = s.name := by
    simp [Analysis.ruleName, analysis, rule, hs]
  refine (Reports.filterMap _ (g.rules.zip (g.analysis start).summaries)).congr fun id w => ?_
  constructor
  · rintro ⟨⟨r, summary⟩, hget, hw⟩
    obtain ⟨hr, hsummary⟩ := List.getElem?_zip_eq_some.mp hget
    have hreachable := reachable_iff_of_summary hstart hsummary
    by_cases hflag : summary.reachable = true
    · simp [hflag] at hw
    · simp only [hflag, hname] at hw
      cases hw
      exact ⟨r, s, hr, hs, fun hpath => hflag (hreachable.mpr hpath), rfl⟩
  · rintro ⟨r, s', hr, hs', hpath, rfl⟩
    cases hs.symm.trans hs'
    obtain ⟨summary, hsummary⟩ : ∃ summary, (g.analysis start).summaries[id]? = some summary :=
      ⟨_, getElem?_summaries hr⟩
    refine ⟨(r, summary), List.getElem?_zip_eq_some.mpr ⟨hr, hsummary⟩, ?_⟩
    have hflag := (reachable_iff_of_summary hstart hsummary).not.mpr hpath
    simp [hflag, hname]

end Grammar

/-- Closures of graphs of rules are exact. For any rules, and any index that leads from names to some of
them, the graphs of all, of first and of last references have an edge for each such reference, and
their closures are the paths along these edges. So the analysis marks a rule as unreachable, and warns
of it once and in the order of the rules, when no path of references leads to it from the start. -/
theorem references_traced :
    (∀ (rules : List Rule) (index : Name → Option RuleId),
      (∀ name id, index name = some id → id < rules.length) →
        (RuleGraph.build rules index).Traces rules.length
          (RefersAtPlace (fun _ _ => True) rules index) ∧
        (RuleGraph.leftCorners rules index).Traces rules.length
          (RefersAtPlace (fun _ place => place = 0) rules index) ∧
        (RuleGraph.rightCorners rules index).Traces rules.length
          (RefersAtPlace (fun a place => place + 1 = a.length) rules index)) ∧
    ∀ (g : Grammar) (start : Option Name) (a : Analysis), g.analyze start = .ok a →
      (∀ id < g.size, ∃ summary, a.summaries[id]? = some summary ∧
        (summary.reachable = false ↔ ¬ Relation.ReflTransGen g.Refers a.start id)) ∧
      Reports (· < ·) (g.UnreachableAt a.start) a.warnings := by
  refine ⟨fun rules index hindex => ⟨?_, ?_, ?_⟩, fun g start a h => ?_⟩
  · exact RuleGraph.traces_ofParts (fun a part => by simp [List.mem_iff_getElem?]) hindex
  · exact RuleGraph.traces_ofParts Alternative.mem_take_one_iff hindex
  · exact RuleGraph.traces_ofParts Alternative.mem_drop_length_iff hindex
  · obtain ⟨rfl, hclosure, _⟩ := Grammar.analyze_eq_ok h
    have hstart := Grammar.startRule_lt hclosure
    refine ⟨fun id hid => ?_, Grammar.reports_warnings hstart⟩
    obtain ⟨summary, hsummary⟩ : ∃ summary,
        (g.analysis (g.startRule start)).summaries[id]? = some summary :=
      ⟨_, Grammar.getElem?_summaries (List.getElem?_eq_getElem hid)⟩
    refine ⟨summary, hsummary, ?_⟩
    rw [← Bool.not_eq_true, not_iff_not]
    exact Grammar.reachable_iff_of_summary hstart hsummary

/-- Of two copies of the numbers whose names lead to the second, only the second refers to itself. From
its digits the grammar does not lead on, so that there are two warnings. -/
theorem references_traced_nestedNumbers :
    let rules := nestedNumbers.rules ++ nestedNumbers.rules
    let index : Name → Option RuleId := fun name => (nestedNumbers.find? name).map (· + 3)
    let refers := RefersAtPlace (fun _ place => place = 0) rules index
    (∀ name id, index name = some id → id < rules.length) ∧
      ¬ Relation.TransGen refers 1 1 ∧ Relation.TransGen refers 4 4 ∧
      Relation.ReflTransGen refers 2 3 ∧
      nestedNumbers.analyze none = .ok (nestedNumbers.analysis 0) ∧
      ¬ Relation.ReflTransGen nestedNumbers.Refers 0 1 ∧
      Reports (· < ·) (nestedNumbers.UnreachableAt 0) (nestedNumbers.analysis 0).warnings ∧
      (nestedNumbers.analysis 0).warnings.length = 2 := by
  intro rules index refers
  have hindex : ∀ name id, index name = some id → id < rules.length := by
    intro name id hid
    obtain ⟨place, hplace, rfl⟩ := Option.map_eq_some_iff.mp hid
    have hlt : place < 3 := Grammar.lt_of_find? hplace
    exact Nat.add_lt_add_right hlt 3
  have h : nestedNumbers.analyze none = .ok (nestedNumbers.analysis 0) := by cbv
  obtain ⟨hgraphs, hanalysis⟩ := references_traced
  have hleft := (hgraphs rules index hindex).2.1
  obtain ⟨hmarks, hwarnings⟩ := hanalysis nestedNumbers none _ h
  obtain ⟨summary, hsummary, hreachable⟩ := hmarks 1 (by decide)
  refine ⟨hindex, ?_, ?_, ?_, h, hreachable.mp ?_, hwarnings, by decide +kernel⟩
  · rw [← hleft.isCyclic_iff]
    decide +kernel
  · rw [← hleft.isCyclic_iff]
    decide +kernel
  · rw [← hleft.reaches_iff 2 (by decide)]
    decide +kernel
  · have hnumber : ((nestedNumbers.analysis 0).summaries[1]?.map (·.reachable)) = some false := by
      decide +kernel
    rw [hsummary] at hnumber
    exact Option.some.inj hnumber

end TypedGrammar
