import Mathlib
import TypedGrammar.Proofs.ClosedGrammar

/-!
# Productive rules have trees

The passes that mark productive rules end with exactly those marked that have a derivation tree,
whatever the order of the rules. A mark is only made where a tree can be put together, and when a
pass marks nothing more, no tree can belong to a rule that is not marked.
-/

namespace TypedGrammar.Grammar

variable {g : Grammar} {marks : List Bool}

def Marked (marks : List Bool) (id : RuleId) : Prop :=
  marks[id]? = some true

/-! ### One mark -/

lemma derivesFrom_iff {a : Alternative} :
    g.derivesFrom marks a = true ↔
      ∀ name ∈ Alternative.references a, ∃ id, g.find? name = some id ∧ Marked marks id := by
  simp only [derivesFrom, List.all_eq_true, Option.any_eq_true, Marked]
  refine forall₂_congr fun name _ => exists_congr fun id => and_congr_right fun _ => ?_
  cases marks[id]? <;> simp

@[simp] lemma length_mark (r : Rule × RuleId) : (g.mark marks r).length = marks.length := by
  unfold mark
  split
  · exact List.length_set
  · rfl

/-- A rule is marked afterwards when it was marked or an alternative refers only to marked rules. -/
lemma marked_mark_iff {r : Rule} {owner id : RuleId} :
    Marked (g.mark marks (r, owner)) id ↔
      Marked marks id ∨ id = owner ∧ owner < marks.length ∧
        ∃ a ∈ r.alternatives, g.derivesFrom marks a = true := by
  unfold mark Marked
  simp only [List.any_eq_true]
  split
  · rename_i h
    obtain ⟨hlt, _⟩ := List.getElem?_eq_some_iff.mp h.1
    rw [List.getElem?_set]
    by_cases hid : owner = id
    · subst hid
      simp [hlt, h.2]
    · simp [hid, Ne.symm hid]
  · rename_i h
    constructor
    · exact .inl
    · rintro (hmarked | ⟨rfl, hlt, hderives⟩)
      · exact hmarked
      · -- It was marked before, or it would be marked now.
        rw [List.getElem?_eq_getElem hlt] at h ⊢
        simpa [hderives] using h

/-- A pass changes nothing only if no rule is there to be marked. -/
lemma mark_eq_of_foldl_mark_eq {rules : List (Rule × RuleId)}
    (h : rules.foldl g.mark marks = marks) : ∀ r ∈ rules, g.mark marks r = marks := by
  induction rules with
  | nil => simp
  | cons r rules ih =>
    rw [List.foldl_cons] at h
    have hr : g.mark marks r = marks := by
      rcases g.mark_eq_or_count_lt marks r with hr | hr
      · exact hr
      · have hrest := g.foldl_mark_eq_or_count_lt rules (g.mark marks r)
        rw [h] at hrest
        rcases hrest with hrest | hrest
        · exact hrest.symm
        · omega
    rw [hr] at h
    exact List.forall_mem_cons.mpr ⟨hr, ih h⟩

/-! ### All passes -/

lemma length_markPass (g : Grammar) (marks : List Bool) :
    (g.markPass marks).length = marks.length := by
  unfold markPass
  generalize g.rules.zipIdx = rules
  induction rules generalizing marks with
  | nil => rfl
  | cons r rules ih => rw [List.foldl_cons, ih, length_mark]

lemma length_markProductive (g : Grammar) (marks : List Bool) :
    (g.markProductive marks).length = marks.length := by
  fun_induction markProductive g marks with
  | case1 => rfl
  | case2 marks h ih => rw [ih, length_markPass]

lemma length_productive (g : Grammar) : g.productive.length = g.size := by
  rw [productive, length_markProductive, List.length_replicate]

/-- The last pass changes nothing. -/
lemma markPass_markProductive (g : Grammar) (marks : List Bool) :
    g.markPass (g.markProductive marks) = g.markProductive marks := by
  fun_induction markProductive g marks with
  | case1 marks h => exact h
  | case2 marks h ih => exact ih

/-- There are no more passes that change something than rules without a mark. -/
lemma exists_iterate_markPass (g : Grammar) (marks : List Bool) :
    ∃ passes ≤ marks.count false, g.markProductive marks = g.markPass^[passes] marks := by
  fun_induction markProductive g marks with
  | case1 marks h => exact ⟨0, Nat.zero_le _, rfl⟩
  | case2 marks h ih =>
    obtain ⟨passes, hpasses, hrest⟩ := ih
    have hlt := (g.foldl_mark_eq_or_count_lt g.rules.zipIdx marks).resolve_left h
    exact ⟨passes + 1, Nat.lt_of_le_of_lt hpasses hlt, hrest⟩

lemma markProductive_induct {P : List Bool → Prop} (hmarks : P marks)
    (hmark : ∀ marks id r, P marks → g.rules[id]? = some r → P (g.mark marks (r, id))) :
    P (g.markProductive marks) := by
  have hfold : ∀ (rules : List (Rule × RuleId)) marks, (∀ r ∈ rules, g.rules[r.2]? = some r.1) →
      P marks → P (rules.foldl g.mark marks) := by
    intro rules
    induction rules with
    | nil => exact fun _ _ h => h
    | cons r rules ih =>
      intro marks hrules h
      obtain ⟨hr, hrules⟩ := List.forall_mem_cons.mp hrules
      exact ih _ hrules (hmark marks r.2 r.1 h hr)
  fun_induction markProductive g marks with
  | case1 => exact hmarks
  | case2 marks h ih =>
    exact ih (hfold _ _ (fun r hr => List.mem_zipIdx_iff_getElem?.mp hr) hmarks)

/-! ### Marks and trees -/

lemma exists_forall₂_derives {targets : List RuleId} (h : ∀ id ∈ targets, ∃ tree, g.Derives id tree) :
    ∃ children, List.Forall₂ g.Derives targets children := by
  induction targets with
  | nil => exact ⟨[], .nil⟩
  | cons id targets ih =>
    obtain ⟨⟨tree, htree⟩, hrest⟩ := List.forall_mem_cons.mp h
    obtain ⟨children, hchildren⟩ := ih hrest
    exact ⟨tree :: children, .cons htree hchildren⟩

/-- Where trees are known for all rules that an alternative refers to, they make one of its rule. -/
lemma exists_derives_of_derivesFrom {id : RuleId} {r : Rule} {a : Alternative}
    (hr : g.rules[id]? = some r) (ha : a ∈ r.alternatives) (hderives : g.derivesFrom marks a = true)
    (hmarks : ∀ id, Marked marks id → ∃ tree, g.Derives id tree) : ∃ tree, g.Derives id tree := by
  rw [derivesFrom_iff] at hderives
  obtain ⟨i, hi⟩ := List.mem_iff_getElem?.mp ha
  have htargets := map_find?_of_forall fun name hname =>
    (hderives name hname).imp fun _ hid => hid.1
  have htrees : ∀ target ∈ (Alternative.references a).filterMap g.find?,
      ∃ tree, g.Derives target tree := by
    intro target htarget
    obtain ⟨name, hname, hfind⟩ := List.mem_filterMap.mp htarget
    obtain ⟨marked, hmarked, hmark⟩ := hderives name hname
    cases hfind.symm.trans hmarked
    exact hmarks target hmark
  obtain ⟨children, hchildren⟩ := exists_forall₂_derives htrees
  exact ⟨_, .node hr hi htargets hchildren⟩

/-- When no rule is left to be marked, every rule with a tree is marked. -/
lemma marked_of_derives (hlength : marks.length = g.size) (hpass : g.markPass marks = marks)
    (tree : DerivationTree) : ∀ id, g.Derives id tree → Marked marks id := by
  induction tree using DerivationTree.induct with
  | node rule alternative children ih =>
    rintro id ⟨hr, ha, htargets, hchildren⟩
    rename_i r a targets
    obtain ⟨hlt, _⟩ := List.getElem?_eq_some_iff.mp hr
    have hmark := mark_eq_of_foldl_mark_eq hpass (r, rule) (List.mem_zipIdx_iff_getElem?.mpr hr)
    rw [← hmark]
    refine marked_mark_iff.mpr (.inr ⟨rfl, hlength ▸ hlt, a, List.mem_of_getElem? ha, ?_⟩)
    refine derivesFrom_iff.mpr fun name hname => ?_
    have hfind : g.find? name ∈ targets.map some := htargets ▸ List.mem_map_of_mem hname
    obtain ⟨target, htarget, hfind⟩ := List.mem_map.mp hfind
    obtain ⟨i, hi, rfl⟩ := List.mem_iff_getElem.mp htarget
    obtain ⟨hlength, hchildren⟩ := List.forall₂_iff_get.mp hchildren
    have hi' : i < children.length := hlength ▸ hi
    exact ⟨_, hfind.symm, ih _ (List.getElem_mem hi') _ (hchildren i hi hi')⟩

/-- The rules marked in the end are those that have a derivation tree. -/
theorem marked_productive_iff {id : RuleId} :
    Marked g.productive id ↔ ∃ tree, g.Derives id tree := by
  constructor
  · have hsound : ∀ id, Marked g.productive id → ∃ tree, g.Derives id tree := by
      refine markProductive_induct (P := fun marks => ∀ id, Marked marks id →
        ∃ tree, g.Derives id tree) ?_ ?_
      · intro id hid
        simp [Marked, List.getElem?_replicate] at hid
      · intro marks owner r ih hr id hid
        rcases marked_mark_iff.mp hid with hid | ⟨rfl, _, a, ha, hderives⟩
        · exact ih id hid
        · exact exists_derives_of_derivesFrom hr ha hderives ih
    exact hsound id
  · rintro ⟨tree, htree⟩
    exact marked_of_derives g.length_productive (g.markPass_markProductive _) tree id htree

/-! ### What the analysis reports -/

/-- The error of a rule without a derivation tree. -/
def UnproductiveAt (g : Grammar) (id : RuleId) (error : SemanticError) : Prop :=
  ∃ r, g.rules[id]? = some r ∧ (∀ tree, ¬ g.Derives id tree) ∧ error = .unproductiveRule r.name

lemma getElem?_productive {id : RuleId} {r : Rule} (hr : g.rules[id]? = some r) :
    g.productive[id]? = some false ↔ ∀ tree, ¬ g.Derives id tree := by
  obtain ⟨hlt, _⟩ := List.getElem?_eq_some_iff.mp hr
  have hlength : id < g.productive.length := by rwa [length_productive]
  rw [← not_exists, ← marked_productive_iff, Marked, List.getElem?_eq_getElem hlength]
  simp

lemma reports_productivityErrors (g : Grammar) :
    Reports (· < ·) g.UnproductiveAt g.productivityErrors := by
  refine (Reports.filterMap _ (g.productive.zip g.rules)).congr fun id e => ?_
  constructor
  · rintro ⟨⟨mark, r⟩, hget, he⟩
    obtain ⟨hmark, hr⟩ := List.getElem?_zip_eq_some.mp hget
    cases mark with
    | true => cases he
    | false =>
      cases he
      exact ⟨r, hr, (getElem?_productive hr).mp hmark, rfl⟩
  · rintro ⟨r, hr, hnone, rfl⟩
    refine ⟨(false, r), List.getElem?_zip_eq_some.mpr ⟨?_, hr⟩, rfl⟩
    exact (getElem?_productive hr).mpr hnone

lemma productivityErrors_eq_nil_iff :
    g.productivityErrors = [] ↔ ∀ id < g.size, ∃ tree, g.Derives id tree := by
  rw [g.reports_productivityErrors.eq_nil_iff]
  constructor
  · intro hnone id hid
    by_contra htree
    exact hnone id _ ⟨_, List.getElem?_eq_getElem hid, not_exists.mp htree, rfl⟩
  · rintro htrees id _ ⟨r, hr, hnone, rfl⟩
    obtain ⟨hlt, _⟩ := List.getElem?_eq_some_iff.mp hr
    obtain ⟨tree, htree⟩ := htrees id hlt
    exact hnone tree htree

/-- A grammar whose names all belong to one rule has no errors of closure. -/
lemma closureErrors_eq_nil {start : Option Name}
    (hdefined : ∀ r ∈ g.rules, ∀ a ∈ r.alternatives, ∀ name ∈ Alternative.references a,
      name ∈ g.rules.map Rule.name)
    (hunique : (g.rules.map Rule.name).Nodup)
    (hstart : ∀ name ∈ start, name ∈ g.rules.map Rule.name) : g.closureErrors start = [] := by
  have hexists : ∀ name ∈ g.rules.map Rule.name, ∃ id, g.Named id name := by
    intro name hname
    simpa only [named_iff] using List.mem_iff_getElem?.mp hname
  refine closureErrors_eq_nil_iff.mpr ⟨?_, ?_, fun name hname => hexists name (hstart name hname)⟩
  · rintro site owner name ⟨r, a, hr, _, ha, hpart⟩
    refine hexists name (hdefined r (List.mem_of_getElem? hr) a (List.mem_of_getElem? ha) name ?_)
    exact List.mem_filterMap.mpr ⟨_, List.mem_of_getElem? hpart, rfl⟩
  · intro id other name hid hother
    rw [named_iff] at hid hother
    obtain ⟨hlt, _⟩ := List.getElem?_eq_some_iff.mp hid
    exact (List.getElem?_inj hlt hunique).mp (hid.trans hother.symm)

/-- Productivity is decided exactly. A grammar with one rule for each name it uses is analyzed when
each of its rules has a derivation tree; otherwise the analysis fails with one error for each rule
that has none. The passes that decide it are no more than the rules, and one more changes nothing. -/
theorem analyze_productive {g : Grammar} {start : Option Name}
    (hdefined : ∀ r ∈ g.rules, ∀ a ∈ r.alternatives, ∀ name ∈ Alternative.references a,
      name ∈ g.rules.map Rule.name)
    (hunique : (g.rules.map Rule.name).Nodup)
    (hstart : ∀ name ∈ start, name ∈ g.rules.map Rule.name) :
    ((∃ a, g.analyze start = .ok a) ↔ ∀ id < g.size, ∃ tree, g.Derives id tree) ∧
    ((∃ id < g.size, ∀ tree, ¬ g.Derives id tree) → ∃ errors,
      Reports (· < ·) g.UnproductiveAt errors ∧ g.analyze start = .error ⟨errors⟩) ∧
    ∃ passes ≤ g.size, g.productive = g.markPass^[passes] (List.replicate g.size false) ∧
      g.markPass g.productive = g.productive := by
  have hclosure := closureErrors_eq_nil hdefined hunique hstart
  have hok : g.productivityErrors = [] → g.analyze start = .ok (g.analysis (g.startRule start)) := by
    intro h
    rw [analyze, if_neg (not_not.mpr hclosure), if_neg (not_not.mpr h)]
  have herror : g.productivityErrors ≠ [] → g.analyze start = .error ⟨g.productivityErrors⟩ := by
    intro h
    rw [analyze, if_neg (not_not.mpr hclosure), if_pos h]
  refine ⟨?_, ?_, ?_⟩
  · rw [← productivityErrors_eq_nil_iff]
    constructor
    · rintro ⟨a, ha⟩
      exact (analyze_eq_ok ha).2.2
    · intro h
      exact ⟨_, hok h⟩
  · rintro ⟨id, hid, hnone⟩
    refine ⟨_, g.reports_productivityErrors, herror fun h => ?_⟩
    obtain ⟨tree, htree⟩ := productivityErrors_eq_nil_iff.mp h id hid
    exact hnone tree htree
  · obtain ⟨passes, hpasses, hproductive⟩ :=
      g.exists_iterate_markPass (List.replicate g.size false)
    rw [List.count_replicate_self] at hpasses
    exact ⟨passes, hpasses, hproductive, g.markPass_markProductive _⟩

/-- A list of letters and a block that never closes. -/
def endlessBlock : Grammar :=
  let letters : Name := ⟨[⟨"letters".toList, by decide⟩], by simp⟩
  let block : Name := ⟨[⟨"block".toList, by decide⟩], by simp⟩
  let letter : Name := ⟨[⟨"letter".toList, by decide⟩], by simp⟩
  { rules := [
      ⟨letters, ⟨[[.reference letter], [.reference letters, .reference letter]], by simp⟩⟩,
      ⟨block, ⟨[[.literal ⟨['['], by decide⟩, .reference block, .literal ⟨[']'], by decide⟩]],
        by simp⟩⟩,
      ⟨letter, ⟨[[.literal ⟨['a'], by decide⟩], [.reference block]], by simp⟩⟩]
    rules_ne_nil := by simp }

theorem analyze_endlessBlock :
    (endlessBlock.rules.map Rule.name).Nodup ∧ (∀ tree, ¬ endlessBlock.Derives 1 tree) ∧
      (¬ ∃ a, endlessBlock.analyze none = .ok a) ∧ ∃ errors,
        Reports (· < ·) endlessBlock.UnproductiveAt errors ∧
          endlessBlock.analyze none = .error ⟨errors⟩ := by
  have hproductive : endlessBlock.productive = [true, false, true] := by cbv
  have hblock : ∀ tree, ¬ endlessBlock.Derives 1 tree := by
    intro tree htree
    have hmarked := marked_productive_iff.mpr ⟨tree, htree⟩
    rw [hproductive] at hmarked
    cases hmarked
  have hunique : (endlessBlock.rules.map Rule.name).Nodup := by decide
  obtain ⟨hok, herror, _⟩ := @analyze_productive endlessBlock none (by decide) hunique (by simp)
  refine ⟨hunique, hblock, ?_, herror ⟨1, by decide, hblock⟩⟩
  rw [hok]
  intro htrees
  obtain ⟨tree, htree⟩ := htrees 1 (by decide)
  exact hblock tree htree

end TypedGrammar.Grammar
