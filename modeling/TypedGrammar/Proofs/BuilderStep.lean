import TypedGrammar.Proofs.SelectionValue

/-!
# Steps of builders

What the steps of one variant build: nodes of that variant whose children are the value so far,
where the step extends one, followed by trees for the rules of the payload. Every such node is
built by one step from one choice of arguments, whether the payload is enumerated or left open.
-/

namespace TypedGrammar

/-- The children that a step of this kind takes over from the value so far. -/
def StepKind.carried? (kind : StepKind) (value : Option DerivationTree) :
    Option (List DerivationTree) :=
  match kind with
  | .growth => value.map ([·])
  | .choice | .base => some []

lemma StepKind.length_carried {kind : StepKind} {value : Option DerivationTree}
    {carried : List DerivationTree} (h : kind.carried? value = some carried) :
    carried.length = kind.held := by
  cases kind with
  | growth =>
    obtain ⟨tree, _, rfl⟩ := Option.map_eq_some_iff.mp h
    rfl
  | choice => cases h; rfl
  | base => cases h; rfl

lemma children?_held {kind : StepKind} {terms : List Term} (hheld : kind.held ≤ terms.length)
    (fills : List Fill) (value : Option DerivationTree) (arguments : List DerivationTree) :
    Fill.children? ((terms.take kind.held).map (fun _ => .previous) ++ fills) value arguments =
      (kind.carried? value).bind fun carried =>
        (Fill.children? fills value arguments).map (carried ++ ·) := by
  cases kind with
  | growth =>
    obtain ⟨term, terms, rfl⟩ := List.exists_cons_of_length_pos hheld
    cases value <;> simp [StepKind.held, StepKind.carried?, Fill.children?, Fill.trees?]
  | choice => simp [StepKind.held, StepKind.carried?]
  | base => simp [StepKind.held, StepKind.carried?]

/-! ### Places of arguments -/

lemma rules_of_argumentPlaces (payload : List Term) (k : Nat) :
    ((payload.zipIdx k).filterMap fun (term, i) => term.rule?.map fun id => (i, id)).map Prod.snd =
      Term.rules payload := by
  induction payload generalizing k with
  | nil => rfl
  | cons term payload ih =>
    cases term with
    | rule id => exact congrArg (id :: ·) (ih (k + 1))
    | literal text => exact ih (k + 1)
    | empty => exact ih (k + 1)

lemma exists_append_of_zipIdx {payload : List Term} {k place : Nat} {id : RuleId}
    (h : ((payload.zipIdx k).filterMap fun (term, i) => term.rule?.map fun id => (i, id)) =
      [(place, id)]) :
    ∃ before after, payload = before ++ .rule id :: after ∧ k + before.length = place ∧
      Term.rules before = [] ∧ Term.rules after = [] := by
  induction payload generalizing k with
  | nil => cases h
  | cons term payload ih =>
    cases term with
    | rule target =>
      have hafter := rules_of_argumentPlaces payload (k + 1)
      obtain ⟨hfirst, hrest⟩ := List.cons.inj h
      cases hfirst
      refine ⟨[], payload, rfl, rfl, rfl, ?_⟩
      rw [← hafter]
      exact congrArg (List.map Prod.snd) hrest
    | literal text =>
      obtain ⟨before, after, rfl, hplace, hbefore, hafter⟩ := ih h
      refine ⟨.literal text :: before, after, rfl, ?_, hbefore, hafter⟩
      rw [List.length_cons]
      omega
    | empty =>
      obtain ⟨before, after, rfl, hplace, hbefore, hafter⟩ := ih h
      refine ⟨.empty :: before, after, rfl, ?_, hbefore, hafter⟩
      rw [List.length_cons]
      omega

/-- A payload with one place for an argument has a rule there and no other rule. -/
lemma exists_append_of_argumentPlaces {payload : List Term} {place : Nat} {id : RuleId}
    (h : argumentPlaces payload = [(place, id)]) :
    ∃ before after, payload = before ++ .rule id :: after ∧ before.length = place ∧
      Term.rules before = [] ∧ Term.rules after = [] := by
  obtain ⟨before, after, hpayload, hplace, hrules⟩ := exists_append_of_zipIdx h
  exact ⟨before, after, hpayload, by omega, hrules⟩

/-! ### Steps of one variant -/

section Variant

variable {g : Grammar} {a : Analysis} {rule : RuleId} {kind : StepKind} {v : Variant} {index : Nat}
  {value : Option DerivationTree} {arguments : List DerivationTree} {tree : DerivationTree}

lemma arguments_held (terms : List Term) :
    (terms.map fun _ => Fill.previous).filterMap Fill.argument? = [] := by
  simp [Fill.argument?]

lemma fills_openStep : (openStep a rule kind v index).selection.fills =
    (v.terms.take kind.held).map (fun _ => .previous) ++ (v.terms.drop kind.held).map Term.fill :=
  rfl

lemma fills_fixedStep {place : Nat} {fixed : NamedSelection} :
    (fixedStep a rule kind v index place fixed).selection.fills =
      (v.terms.take kind.held).map (fun _ => .previous) ++
        ((v.terms.drop kind.held).map Term.fill).set place fixed.selection.fill :=
  rfl

lemma arguments_openStep : (openStep a rule kind v index).selection.arguments =
    Term.rules (v.terms.drop kind.held) := by
  rw [Selection.arguments, fills_openStep, List.filterMap_append, arguments_held, arguments_terms,
    List.nil_append]

/-- A step that is left open adds one supplied tree for each rule of the payload. -/
theorem openStep_makes_iff (hheld : kind.held ≤ v.terms.length) :
    (openStep a rule kind v index).selection.Makes g value arguments tree ↔
      List.Forall₂ g.Derives (Term.rules (v.terms.drop kind.held)) arguments ∧
        ∃ carried, kind.carried? value = some carried ∧
          tree = .node rule index (carried ++ arguments) := by
  rw [Selection.Makes, arguments_openStep]
  refine and_congr_right fun harguments => ?_
  have hfills := children?_terms harguments.length_eq.symm value
  simp only [Selection.value?, openStep, children?_held hheld, hfills, Option.map_some]
  cases kind.carried? value with
  | none => simp
  | some carried => simp [eq_comm]

lemma set_fill (before after : List Term) (id : RuleId) (fill : Fill) :
    ((before ++ .rule id :: after).map Term.fill).set before.length fill =
      before.map Term.fill ++ fill :: after.map Term.fill := by
  rw [List.map_append, List.map_cons, List.set_append_right _ _ (by simp)]
  simp

/-- A step that fixes the one rule of the payload takes no argument and adds the fixed tree. -/
theorem fixedStep_makes_iff (hheld : kind.held ≤ v.terms.length) {place : Nat} {id : RuleId}
    (hplace : argumentPlaces (v.terms.drop kind.held) = [(place, id)]) {fixed : NamedSelection}
    {child : DerivationTree} (hfixed : fixed.selection.value? none [] = some child) :
    (fixedStep a rule kind v index place fixed).selection.Makes g value arguments tree ↔
      arguments = [] ∧ ∃ carried, kind.carried? value = some carried ∧
        tree = .node rule index (carried ++ [child]) := by
  obtain ⟨before, after, hpayload, rfl, hbefore, hafter⟩ := exists_append_of_argumentPlaces hplace
  have hfills : ((v.terms.drop kind.held).map Term.fill).set before.length fixed.selection.fill =
      before.map Term.fill ++ fixed.selection.fill :: after.map Term.fill := by
    rw [hpayload, set_fill]
  have hnone : (fixedStep a rule kind v index before.length fixed).selection.arguments = [] := by
    rw [Selection.arguments, fills_fixedStep, hfills, List.filterMap_append, arguments_held,
      List.filterMap_append, arguments_terms, hbefore, List.filterMap_cons_none rfl,
      arguments_terms, hafter]
    rfl
  rw [Selection.Makes, hnone, List.forall₂_nil_left_iff]
  refine and_congr_right fun harguments => ?_
  subst harguments
  have hchildren := children?_fixed hbefore hafter hfixed value
  simp only [Selection.value?, fixedStep, hfills, children?_held hheld, hchildren, Option.map_some]
  cases kind.carried? value with
  | none => simp
  | some carried => simp [eq_comm]

end Variant

/-- Whatever the one selection builds, the other does not. -/
def Selection.Apart (g : Grammar) (s t : Selection) : Prop :=
  ∀ value arguments value' arguments' tree,
    s.Makes g value arguments tree → ¬t.Makes g value' arguments' tree

/-- The steps build the nodes of one alternative of `rule` that hold trees of `rules` after what is
carried over, and each of these nodes in one way. -/
structure StepsBuild (g : Grammar) (rule : RuleId) (index : Nat) (kind : StepKind)
    (rules : List RuleId) (steps : List Step) : Prop where
  kind_eq : ∀ s ∈ steps, s.kind = kind
  total : ∀ s ∈ steps, ∀ value carried arguments, kind.carried? value = some carried →
    List.Forall₂ g.Derives s.selection.arguments arguments →
      ∃ tree, s.selection.Makes g value arguments tree
  sound : ∀ s ∈ steps, ∀ value arguments tree, s.selection.Makes g value arguments tree →
    ∃ carried children, kind.carried? value = some carried ∧
      List.Forall₂ g.Derives rules children ∧ tree = .node rule index (carried ++ children)
  complete : ∀ value carried children, kind.carried? value = some carried →
    List.Forall₂ g.Derives rules children →
      ∃ s ∈ steps, ∃ arguments,
        s.selection.Makes g value arguments (.node rule index (carried ++ children))
  unique : ∀ s ∈ steps, ∀ value value' arguments arguments' tree,
    s.selection.Makes g value arguments tree → s.selection.Makes g value' arguments' tree →
      arguments = arguments' ∧ kind.carried? value = kind.carried? value'
  apart : (steps.map (·.selection)).Pairwise (Selection.Apart g)

section Variant

variable {g : Grammar} {a : Analysis} {rule : RuleId} {kind : StepKind} {v : Variant} {index : Nat}

lemma append_inj_of_carried {value value' : Option DerivationTree}
    {carried carried' children children' : List DerivationTree}
    (h : kind.carried? value = some carried) (h' : kind.carried? value' = some carried')
    (heq : DerivationTree.node rule index (carried ++ children) =
      .node rule index (carried' ++ children')) : carried = carried' ∧ children = children' := by
  injection heq with _ _ heq
  exact List.append_inj heq (by rw [StepKind.length_carried h, StepKind.length_carried h'])

lemma stepsBuild_openStep (hheld : kind.held ≤ v.terms.length) :
    StepsBuild g rule index kind (Term.rules (v.terms.drop kind.held))
      [openStep a rule kind v index] where
  kind_eq := by
    intro s hs
    obtain rfl := List.mem_singleton.mp hs
    rfl
  total := by
    intro s hs value carried arguments hcarried harguments
    obtain rfl := List.mem_singleton.mp hs
    rw [arguments_openStep] at harguments
    exact ⟨_, (openStep_makes_iff hheld).mpr ⟨harguments, carried, hcarried, rfl⟩⟩
  sound := by
    intro s hs value arguments tree hmakes
    obtain rfl := List.mem_singleton.mp hs
    obtain ⟨harguments, carried, hcarried, rfl⟩ := (openStep_makes_iff hheld).mp hmakes
    exact ⟨carried, arguments, hcarried, harguments, rfl⟩
  complete := by
    intro value carried children hcarried hchildren
    exact ⟨_, List.mem_singleton.mpr rfl, children,
      (openStep_makes_iff hheld).mpr ⟨hchildren, carried, hcarried, rfl⟩⟩
  unique := by
    intro s hs value value' arguments arguments' tree hmakes hmakes'
    obtain rfl := List.mem_singleton.mp hs
    obtain ⟨_, carried, hcarried, rfl⟩ := (openStep_makes_iff hheld).mp hmakes
    obtain ⟨_, carried', hcarried', heq⟩ := (openStep_makes_iff hheld).mp hmakes'
    obtain ⟨rfl, rfl⟩ := append_inj_of_carried hcarried hcarried' heq
    exact ⟨rfl, hcarried.trans hcarried'.symm⟩
  apart := List.pairwise_singleton _ _

lemma stepsBuild_fixedStep (hheld : kind.held ≤ v.terms.length) {place : Nat} {id : RuleId}
    (hplace : argumentPlaces (v.terms.drop kind.held) = [(place, id)])
    {values : List NamedSelection} (hvalues : Enumerates (g.Derives id) values) :
    StepsBuild g rule index kind [id] (values.map (fixedStep a rule kind v index place)) := by
  obtain ⟨trees, htrees, hnodup, hmem⟩ := hvalues
  have hvalue : ∀ value ∈ values, ∃ tree ∈ trees, value.selection.value? none [] = some tree := by
    intro value hv
    have hv := List.mem_map_of_mem (f := fun value => value.selection.value? none []) hv
    rw [htrees] at hv
    obtain ⟨tree, ht, heq⟩ := List.mem_map.mp hv
    exact ⟨tree, ht, heq.symm⟩
  constructor
  · intro s hs
    obtain ⟨value, _, rfl⟩ := List.mem_map.mp hs
    rfl
  · intro s hs value carried arguments hcarried harguments
    obtain ⟨fixed, hf, rfl⟩ := List.mem_map.mp hs
    obtain ⟨child, _, hfixed⟩ := hvalue fixed hf
    have hmakes : (fixedStep a rule kind v index place fixed).selection.Makes g value [] _ :=
      (fixedStep_makes_iff hheld hplace hfixed).mpr ⟨rfl, carried, hcarried, rfl⟩
    have hnil : arguments = [] := by
      rw [List.forall₂_nil_right_iff.mp hmakes.1] at harguments
      exact List.forall₂_nil_left_iff.mp harguments
    exact ⟨_, hnil ▸ hmakes⟩
  · intro s hs value arguments tree hmakes
    obtain ⟨fixed, hf, rfl⟩ := List.mem_map.mp hs
    obtain ⟨child, hchild, hfixed⟩ := hvalue fixed hf
    obtain ⟨_, carried, hcarried, rfl⟩ := (fixedStep_makes_iff hheld hplace hfixed).mp hmakes
    exact ⟨carried, [child], hcarried, .cons ((hmem child).mp hchild) .nil, rfl⟩
  · intro value carried children hcarried hchildren
    obtain ⟨child, rest, hchild, hrest, rfl⟩ := List.forall₂_cons_left_iff.mp hchildren
    obtain rfl := List.forall₂_nil_left_iff.mp hrest
    have hc := List.mem_map_of_mem (f := some) ((hmem child).mpr hchild)
    rw [← htrees] at hc
    obtain ⟨fixed, hf, hfixed⟩ := List.mem_map.mp hc
    exact ⟨_, List.mem_map_of_mem hf, [],
      (fixedStep_makes_iff hheld hplace hfixed).mpr ⟨rfl, carried, hcarried, rfl⟩⟩
  · intro s hs value value' arguments arguments' tree hmakes hmakes'
    obtain ⟨fixed, hf, rfl⟩ := List.mem_map.mp hs
    obtain ⟨child, _, hfixed⟩ := hvalue fixed hf
    obtain ⟨rfl, carried, hcarried, rfl⟩ := (fixedStep_makes_iff hheld hplace hfixed).mp hmakes
    obtain ⟨rfl, carried', hcarried', heq⟩ := (fixedStep_makes_iff hheld hplace hfixed).mp hmakes'
    obtain ⟨rfl, _⟩ := append_inj_of_carried hcarried hcarried' heq
    exact ⟨rfl, hcarried.trans hcarried'.symm⟩
  · have hdistinct : values.Pairwise fun fixed fixed' =>
        fixed.selection.value? none [] ≠ fixed'.selection.value? none [] := by
      have hsome : (trees.map some).Nodup := hnodup.map fun _ _ => Option.some.inj
      rw [← htrees] at hsome
      exact List.pairwise_map.mp hsome
    rw [List.map_map, List.pairwise_map]
    refine hdistinct.imp_of_mem fun {fixed fixed'} hf hf' hne => ?_
    intro value arguments value' arguments' tree hmakes hmakes'
    obtain ⟨child, _, hfixed⟩ := hvalue fixed hf
    obtain ⟨child', _, hfixed'⟩ := hvalue fixed' hf'
    obtain ⟨_, carried, hcarried, rfl⟩ := (fixedStep_makes_iff hheld hplace hfixed).mp hmakes
    obtain ⟨_, carried', hcarried', heq⟩ := (fixedStep_makes_iff hheld hplace hfixed').mp hmakes'
    obtain ⟨_, hchild⟩ := append_inj_of_carried hcarried hcarried' heq
    exact hne (by rw [hfixed, hfixed', List.singleton_inj.mp hchild])

/-- The steps of a variant build its nodes, whether its payload is enumerated or left open. -/
theorem stepsBuild_variantSteps (hg : g.Closed) (hheld : kind.held ≤ v.terms.length) :
    StepsBuild g rule index kind (Term.rules (v.terms.drop kind.held))
      (variantSteps a g.typeModel rule kind v index) := by
  unfold variantSteps
  split
  · rename_i place id hplace
    split
    · rename_i values hvalues
      have hrules : Term.rules (v.terms.drop kind.held) = [id] := by
        have hsnd := rules_of_argumentPlaces (v.terms.drop kind.held) 0
        rw [← hsnd]
        exact congrArg (List.map Prod.snd) hplace
      rw [hrules]
      exact stepsBuild_fixedStep hheld hplace (enumerates_enumerateWithin hg a hvalues)
    · exact stepsBuild_openStep hheld
  · exact stepsBuild_openStep hheld

end Variant

end TypedGrammar
