import Mathlib.Data.List.Nodup
import TypedGrammar.Builder.Synthesis
import TypedGrammar.Proofs.DerivationTree

/-!
# Values of selections

What a selection builds: a node of its rule whose children are read off its fills. The value built
so far stands in for `previous`, supplied values for the arguments in order, and a fixed selection
for the tree it builds by itself. A rule that is enumerated has each of its trees built once.
-/

namespace TypedGrammar

mutual

/-- The trees that a fill adds to its node, with the supplied values it leaves over. -/
def Fill.trees? : Fill → Option DerivationTree → List DerivationTree →
    Option (List DerivationTree × List DerivationTree)
  | .previous, value, arguments => value.map fun tree => ([tree], arguments)
  | .literal _, _, arguments => some ([], arguments)
  | .empty, _, arguments => some ([], arguments)
  | .argument _, _, [] => none
  | .argument _, _, tree :: arguments => some ([tree], arguments)
  | .fixed rule variant fills, _, arguments =>
    (Fill.children? fills none []).map fun children => ([.node rule variant children], arguments)

/-- The children of a node with these fills, which have to use up the supplied values. -/
def Fill.children? : List Fill → Option DerivationTree → List DerivationTree →
    Option (List DerivationTree)
  | [], _, [] => some []
  | [], _, _ :: _ => none
  | fill :: fills, value, arguments =>
    (fill.trees? value arguments).bind fun (trees, arguments) =>
      (Fill.children? fills value arguments).map (trees ++ ·)

end

namespace Selection

/-- The tree that the selection builds from the value so far and the supplied values. -/
def value? (s : Selection) (value : Option DerivationTree) (arguments : List DerivationTree) :
    Option DerivationTree :=
  (Fill.children? s.fills value arguments).map (.node s.rule s.variant)

/-- The selection builds `tree` when it is supplied with trees of the rules it asks for. -/
def Makes (g : Grammar) (s : Selection) (value : Option DerivationTree)
    (arguments : List DerivationTree) (tree : DerivationTree) : Prop :=
  List.Forall₂ g.Derives s.arguments arguments ∧ s.value? value arguments = some tree

end Selection

/-! ### Fills of terms -/

lemma children?_terms_append {terms : List Term} {arguments : List DerivationTree}
    (h : arguments.length = (Term.rules terms).length) (fills : List Fill)
    (value : Option DerivationTree) (rest : List DerivationTree) :
    Fill.children? (terms.map Term.fill ++ fills) value (arguments ++ rest) =
      (Fill.children? fills value rest).map (arguments ++ ·) := by
  induction terms generalizing arguments with
  | nil =>
    obtain rfl := List.length_eq_zero_iff.mp h
    simp
  | cons term terms ih =>
    cases term with
    | rule id =>
      cases arguments with
      | nil => simp [Term.rules, Term.rule?] at h
      | cons tree arguments =>
        have hlength : arguments.length = (Term.rules terms).length := by
          simpa [Term.rules, Term.rule?] using h
        simp only [List.map_cons, Term.fill, List.cons_append, Fill.children?, Fill.trees?,
          Option.bind_some, ih hlength, Option.map_map]
        rfl
    | literal text =>
      have hlength : arguments.length = (Term.rules terms).length := h
      simp only [List.map_cons, Term.fill, List.cons_append, Fill.children?, Fill.trees?,
        Option.bind_some, ih hlength, Option.map_map]
      rfl
    | empty =>
      have hlength : arguments.length = (Term.rules terms).length := h
      simp only [List.map_cons, Term.fill, List.cons_append, Fill.children?, Fill.trees?,
        Option.bind_some, ih hlength, Option.map_map]
      rfl

/-- Terms that leave their rules to the caller take one supplied value for each. -/
lemma children?_terms {terms : List Term} {arguments : List DerivationTree}
    (h : arguments.length = (Term.rules terms).length) (value : Option DerivationTree) :
    Fill.children? (terms.map Term.fill) value arguments = some arguments := by
  have hterms := children?_terms_append h [] value []
  simpa [Fill.children?] using hterms

/-- A fixed selection between terms without rules adds the one tree that it builds. -/
lemma children?_fixed {before after : List Term} (hbefore : Term.rules before = [])
    (hafter : Term.rules after = []) {s : Selection} {tree : DerivationTree}
    (hs : s.value? none [] = some tree) (value : Option DerivationTree) :
    Fill.children? (before.map Term.fill ++ s.fill :: after.map Term.fill) value [] =
      some [tree] := by
  obtain ⟨children, hchildren, rfl⟩ := Option.map_eq_some_iff.mp hs
  have hnone : ∀ {terms : List Term}, Term.rules terms = [] →
      ([] : List DerivationTree).length = (Term.rules terms).length := fun h => by rw [h]; rfl
  have hskip := children?_terms_append (hnone hbefore) (s.fill :: after.map Term.fill) value []
  have hrest := children?_terms (hnone hafter) value
  rw [List.append_nil] at hskip
  rw [hskip, Fill.children?, Selection.fill, Fill.trees?, hchildren]
  simp [hrest]

lemma arguments_terms (terms : List Term) :
    (terms.map Term.fill).filterMap Fill.argument? = Term.rules terms := by
  rw [List.filterMap_map, Term.rules]
  congr 1
  funext term
  cases term <;> rfl

/-! ### Enumerated rules -/

lemma exists_of_mem_mapM {α β : Type} {f : α → Option β} {l : List α} {images : List β}
    (h : l.mapM f = some images) {b : β} (hb : b ∈ images) : ∃ a ∈ l, f a = some b := by
  induction l generalizing images with
  | nil =>
    cases h
    cases hb
  | cons a l ih =>
    simp only [List.mapM_cons, Option.bind_eq_bind, Option.bind_eq_some_iff] at h
    obtain ⟨first, hfirst, rest, hrest, hcons⟩ := h
    cases hcons
    rcases List.mem_cons.mp hb with rfl | hb
    · exact ⟨a, List.mem_cons_self, hfirst⟩
    · obtain ⟨a', ha', hb⟩ := ih hrest hb
      exact ⟨a', List.mem_cons_of_mem a ha', hb⟩

/-- What is listed within some depth are the values of all variants, one after the other, if these are not
too many. -/
lemma enumerateWithin_succ_eq_some_iff {a : Analysis} {m : TypeModel} {depth : Nat} {rule : RuleId}
    {values : List NamedSelection} :
    enumerateWithin a m (depth + 1) rule = some values ↔
      a.shape rule = .flat ∧ ∃ lists, ((m.variants rule).zipIdx.mapM fun v : Variant × Nat =>
        v.1.enumerate? (enumerateWithin a m depth) rule v.2) = some lists ∧
          lists.flatten.length ≤ maxValues ∧ lists.flatten = values := by
  rw [enumerateWithin]
  by_cases hflat : a.shape rule = .flat
  · simp [hflat, Option.bind_eq_some_iff]
  · simp [hflat]

/-- A value of a rule that is enumerated is one of the values of some variant. -/
lemma exists_variant_of_mem_values {a : Analysis} {m : TypeModel} {depth : Nat} {rule : RuleId}
    {values : List NamedSelection} (h : enumerateWithin a m (depth + 1) rule = some values)
    {value : NamedSelection} (hvalue : value ∈ values) :
    ∃ index, ∃ v : Variant, ∃ list, (m.variants rule)[index]? = some v ∧
      v.enumerate? (enumerateWithin a m depth) rule index = some list ∧ value ∈ list := by
  obtain ⟨_, lists, hlists, _, rfl⟩ := enumerateWithin_succ_eq_some_iff.mp h
  obtain ⟨list, hlist, hvalue⟩ := List.mem_flatten.mp hvalue
  obtain ⟨⟨v, index⟩, hv, henumerate⟩ := exists_of_mem_mapM hlists hlist
  exact ⟨index, v, list, List.mem_zipIdx_iff_getElem?.mp hv, henumerate, hvalue⟩

/-- The selections leave nothing open and build the trees with the property, each of them once. -/
def Enumerates (property : DerivationTree → Prop) (values : List NamedSelection) : Prop :=
  ∃ trees : List DerivationTree, values.map (fun value => value.selection.value? none []) =
      trees.map some ∧
    trees.Nodup ∧ ∀ tree, tree ∈ trees ↔ property tree

lemma Enumerates.congr {p q : DerivationTree → Prop} {values : List NamedSelection}
    (h : Enumerates p values) (hpq : ∀ tree, p tree ↔ q tree) : Enumerates q values := by
  obtain ⟨trees, hvalues, hnodup, hmem⟩ := h
  exact ⟨trees, hvalues, hnodup, fun tree => (hmem tree).trans (hpq tree)⟩

lemma enumerates_nil : Enumerates (fun _ => False) [] :=
  ⟨[], rfl, List.nodup_nil, by simp⟩

lemma Enumerates.append {p q : DerivationTree → Prop} {values others : List NamedSelection}
    (hp : Enumerates p values) (hq : Enumerates q others) (hpq : ∀ tree, p tree → ¬q tree) :
    Enumerates (fun tree => p tree ∨ q tree) (values ++ others) := by
  obtain ⟨trees, hvalues, hnodup, hmem⟩ := hp
  obtain ⟨trees', hothers, hnodup', hmem'⟩ := hq
  refine ⟨trees ++ trees', by simp [hvalues, hothers], ?_, ?_⟩
  · refine hnodup.append hnodup' fun tree ht ht' => ?_
    exact hpq tree ((hmem tree).mp ht) ((hmem' tree).mp ht')
  · intro tree
    rw [List.mem_append, hmem, hmem']

lemma value?_fixed (rule : RuleId) (index : Nat) (s : Selection) :
    Selection.value? ⟨rule, index, [s.fill]⟩ none [] =
      (s.value? none []).map fun tree => .node rule index [tree] := by
  simp only [Selection.value?, Selection.fill, Fill.children?, Fill.trees?, Option.map_map]
  cases Fill.children? s.fills none [] <;> rfl

/-- The trees of a variant are enumerated when those of the one rule it may hold are. -/
lemma Variant.enumerates {g : Grammar} {inner : RuleId → Option (List NamedSelection)}
    (hinner : ∀ sub values, inner sub = some values → Enumerates (g.Derives sub) values)
    {rule : RuleId} {index : Nat} {v : Variant} {values : List NamedSelection}
    (h : v.enumerate? inner rule index = some values) :
    Enumerates (fun tree => ∃ children, List.Forall₂ g.Derives v.ruleTerms children ∧
      tree = .node rule index children) values := by
  unfold Variant.enumerate? at h
  split at h
  · rename_i sub hterms
    obtain ⟨others, hothers, rfl⟩ := Option.map_eq_some_iff.mp h
    obtain ⟨trees, hvalues, hnodup, hmem⟩ := hinner sub others hothers
    have hrules : v.ruleTerms = [sub] := by rw [Variant.ruleTerms, hterms]; rfl
    refine ⟨trees.map fun tree => .node rule index [tree], ?_, ?_, ?_⟩
    · have hmap := congrArg
        (List.map (Option.map fun tree => DerivationTree.node rule index [tree])) hvalues
      simpa only [List.map_map, Function.comp_def, value?_fixed, Option.map_some] using hmap
    · refine hnodup.map fun tree tree' heq => ?_
      simpa using heq
    · intro tree
      simp only [List.mem_map, hmem, hrules, List.forall₂_cons_left_iff, List.forall₂_nil_left_iff]
      constructor
      · rintro ⟨child, hchild, rfl⟩
        exact ⟨[child], ⟨child, [], hchild, rfl, rfl⟩, rfl⟩
      · rintro ⟨children, ⟨child, rest, hchild, rfl, rfl⟩, rfl⟩
        exact ⟨child, hchild, rfl⟩
  · split at h
    · rename_i hterminal
      cases h
      have hrules : v.ruleTerms = [] := by simpa [Variant.isTerminal] using hterminal
      refine ⟨[.node rule index []], ?_, List.nodup_singleton _, ?_⟩
      · have hlength : ([] : List DerivationTree).length = (Term.rules v.terms).length := by
          rw [← Variant.ruleTerms, hrules]
          rfl
        have hchildren := children?_terms hlength none
        simp [Selection.value?, hchildren]
      · simp [hrules]
    · cases h

/-- The variants from `index` on are enumerated one after the other. Their trees differ in the
alternative at the root, so that no tree is listed twice. -/
lemma enumerates_variants {g : Grammar} {inner : RuleId → Option (List NamedSelection)}
    (hinner : ∀ sub values, inner sub = some values → Enumerates (g.Derives sub) values)
    {rule : RuleId} {variants : List Variant} {index : Nat} {values : List (List NamedSelection)}
    (h : (variants.zipIdx index).mapM (fun (v, index) => v.enumerate? inner rule index) =
      some values) :
    Enumerates (fun tree => ∃ i v children, variants[i]? = some v ∧
      List.Forall₂ g.Derives v.ruleTerms children ∧ tree = .node rule (index + i) children)
      values.flatten := by
  induction variants generalizing index values with
  | nil =>
    cases h
    exact enumerates_nil.congr (by simp)
  | cons v variants ih =>
    simp only [List.zipIdx_cons, List.mapM_cons, Option.bind_eq_bind, Option.bind_eq_some_iff] at h
    obtain ⟨first, hfirst, rest, hrest, hvalues⟩ := h
    cases hvalues
    rw [List.flatten_cons]
    refine ((v.enumerates hinner hfirst).append (ih hrest) ?_).congr fun tree => ?_
    · rintro _ ⟨children, _, rfl⟩ ⟨i, _, _, _, _, heq⟩
      injection heq with _ hindex
      omega
    · constructor
      · rintro (⟨children, hchildren, rfl⟩ | ⟨i, w, children, hw, hchildren, rfl⟩)
        · exact ⟨0, v, children, rfl, hchildren, rfl⟩
        · exact ⟨i + 1, w, children, hw, hchildren, by rw [Nat.add_assoc, Nat.add_comm 1]⟩
      · rintro ⟨_ | i, w, children, hw, hchildren, rfl⟩
        · cases hw
          exact .inl ⟨children, hchildren, rfl⟩
        · exact .inr ⟨i, w, children, hw, hchildren, by rw [Nat.add_assoc, Nat.add_comm 1]⟩

/-- The trees that the values of all variants build are the trees of the rule. -/
lemma enumerates_derives {g : Grammar} (hg : g.Closed) {inner : RuleId → Option (List NamedSelection)}
    (hinner : ∀ sub values, inner sub = some values → Enumerates (g.Derives sub) values)
    {rule : RuleId} {lists : List (List NamedSelection)}
    (h : ((g.typeModel.variants rule).zipIdx.mapM fun v : Variant × Nat =>
      v.1.enumerate? inner rule v.2) = some lists) :
    Enumerates (g.Derives rule) lists.flatten := by
  refine (enumerates_variants hinner h).congr fun tree => ?_
  rw [hg.derives_iff]
  simp only [Nat.zero_add]

/-- A rule that is enumerated within some depth has exactly the trees that are listed. -/
theorem enumerates_enumerateWithin {g : Grammar} (hg : g.Closed) (a : Analysis) {depth : Nat}
    {rule : RuleId} {values : List NamedSelection}
    (h : enumerateWithin a g.typeModel depth rule = some values) :
    Enumerates (g.Derives rule) values := by
  induction depth generalizing rule values with
  | zero => cases h
  | succ depth ih =>
    obtain ⟨_, lists, hlists, _, rfl⟩ := enumerateWithin_succ_eq_some_iff.mp h
    exact enumerates_derives hg (fun _ _ => ih) hlists

end TypedGrammar
