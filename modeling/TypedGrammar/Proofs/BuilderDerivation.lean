import Mathlib
import TypedGrammar.Proofs.BuilderMachine
import TypedGrammar.Proofs.BuilderStep
import TypedGrammar.Proofs.RuleShape

/-!
# Builders and derivations

A call of a builder is an action with the trees supplied for its arguments. A machine derives
exactly the trees of its rule when every legal sequence of calls evaluates to such a tree and each
tree is the value of one legal sequence. `DerivesExactly` says so of a machine and of a contract,
and `synthesize_derivesExactly` of whatever is synthesized for a rule of an analyzed grammar.
-/

namespace TypedGrammar

/-- An action of a builder with the values that the caller supplies to it. -/
structure Call where
  action : Action
  arguments : List DerivationTree

namespace Machine

/-- The rules whose values an action asks for. -/
def argumentsOf (m : Machine) : Action → List RuleId
  | .step i => (m.steps[i]?.map (·.selection.arguments)).getD []
  | .build => []

/-- The value after a call. Building leaves it as it is. -/
def perform? (m : Machine) (value : Option DerivationTree) (call : Call) :
    Option (Option DerivationTree) :=
  match call.action with
  | .step i => (m.steps[i]?.bind (·.selection.value? value call.arguments)).map some
  | .build => some value

/-- The value that the calls make from nothing. -/
def evaluate? (m : Machine) (calls : List Call) : Option DerivationTree :=
  (calls.foldlM m.perform? none).join

/-- The machine accepts the actions, and each of them is given trees of the rules it asks for. -/
def Legal (g : Grammar) (m : Machine) (calls : List Call) : Prop :=
  m.accepts (calls.map (·.action)) = true ∧
    ∀ call ∈ calls, List.Forall₂ g.Derives (m.argumentsOf call.action) call.arguments

/-- Legal calls make a tree of the rule, and every tree of the rule is made by one sequence of
legal calls. -/
def DerivesExactly (g : Grammar) (rule : RuleId) (m : Machine) : Prop :=
  (∀ calls, m.Legal g calls → ∃ tree, m.evaluate? calls = some tree ∧ g.Derives rule tree) ∧
    ∀ tree, g.Derives rule tree → ∃! calls, m.Legal g calls ∧ m.evaluate? calls = some tree

end Machine

/-- Applying a constructor to trees of its parameters makes a tree of the rule, and every tree of
the rule is made by one constructor, counted by its place, from one list of such trees. -/
def Contract.DerivesExactly (g : Grammar) (rule : RuleId) (c : Contract) : Prop :=
  (∀ constructor ∈ c.constructors, ∀ arguments,
    List.Forall₂ g.Derives constructor.parameters arguments →
      g.Derives rule (.node c.rule constructor.variant arguments)) ∧
    ∀ tree, g.Derives rule tree → ∃! application : Nat × List DerivationTree,
      ∃ constructor, c.constructors[application.1]? = some constructor ∧
        List.Forall₂ g.Derives constructor.parameters application.2 ∧
          tree = .node c.rule constructor.variant application.2

/-! ### Contracts -/

theorem contractOf_derivesExactly {g : Grammar} (hg : g.Closed) (rule : RuleId) :
    (contractOf g.typeModel rule).DerivesExactly g rule := by
  have hconstructors (i : Nat) : (contractOf g.typeModel rule).constructors[i]? =
      ((g.typeModel.variants rule)[i]?).map fun v => ⟨v.name, i, v.ruleTerms⟩ := by
    simp only [contractOf, List.getElem?_map, List.getElem?_zipIdx, Option.map_map, Nat.zero_add]
    rfl
  constructor
  · intro constructor hmem arguments harguments
    obtain ⟨i, hi⟩ := List.mem_iff_getElem?.mp hmem
    rw [hconstructors] at hi
    obtain ⟨v, hv, rfl⟩ := Option.map_eq_some_iff.mp hi
    exact hg.derives_iff.mpr ⟨i, v, arguments, hv, harguments, rfl⟩
  · intro tree htree
    obtain ⟨i, v, children, hv, hchildren, rfl⟩ := hg.derives_iff.mp htree
    refine ⟨(i, children), ⟨_, by rw [hconstructors, hv]; rfl, hchildren, rfl⟩, ?_⟩
    rintro ⟨j, arguments⟩ ⟨constructor, hj, harguments, heq⟩
    rw [hconstructors] at hj
    obtain ⟨w, hw, rfl⟩ := Option.map_eq_some_iff.mp hj
    injection heq with _ hindex hchildren
    exact Prod.ext hindex.symm hchildren.symm

/-! ### Steps of a machine -/

/-- What a step does, apart from its name. -/
def Step.work (s : Step) : StepKind × Selection :=
  (s.kind, s.selection)

lemma map_work_claimNames (initial growing : NameSet) (steps : List Step) :
    (claimNames initial growing steps).map Step.work = steps.map Step.work := by
  induction steps generalizing initial growing with
  | nil => rfl
  | cons step steps ih =>
    rw [claimNames]
    split
    · rw [List.map_cons, ih, List.map_cons]
      rfl
    · rw [List.map_cons, ih, List.map_cons]
      rfl

/-- The steps of a machine before their names are made unique. -/
def unnamedSteps (a : Analysis) (m : TypeModel) (rule : RuleId) : List Step :=
  ((m.variants rule).zip (a.recursion rule)).zipIdx.flatMap fun ((v, c), index) =>
    variantSteps a m rule (stepKind (a.shape rule) c) v index

lemma map_work_machineOf (a : Analysis) (m : TypeModel) (rule : RuleId) :
    (machineOf a m rule).steps.map Step.work = (unnamedSteps a m rule).map Step.work :=
  map_work_claimNames _ _ _

lemma mem_zipIdx_zip_iff {α β : Type} {l : List α} {l' : List β} {x : α} {y : β} {i : Nat} :
    ((x, y), i) ∈ (l.zip l').zipIdx ↔ l[i]? = some x ∧ l'[i]? = some y := by
  rw [List.mk_mem_zipIdx_iff_getElem?, List.getElem?_zip_eq_some]

section Machine

variable {g : Grammar} {start rule : RuleId} {value value' : Option DerivationTree}
  {arguments arguments' : List DerivationTree} {tree : DerivationTree}

lemma mem_unnamedSteps_iff {a : Analysis} {m : TypeModel} {s : Step} :
    s ∈ unnamedSteps a m rule ↔ ∃ index v c, (m.variants rule)[index]? = some v ∧
      (a.recursion rule)[index]? = some c ∧
        s ∈ variantSteps a m rule (stepKind (a.shape rule) c) v index := by
  simp only [unnamedSteps, List.mem_flatMap, Prod.exists, mem_zipIdx_zip_iff]
  constructor
  · rintro ⟨v, c, index, ⟨hv, hc⟩, hs⟩
    exact ⟨index, v, c, hv, hc, hs⟩
  · rintro ⟨index, v, c, hv, hc, hs⟩
    exact ⟨v, c, index, ⟨hv, hc⟩, hs⟩

lemma exists_step_of_variant {a : Analysis} {m : TypeModel} {s : Step}
    (hs : s ∈ (machineOf a m rule).steps) :
    ∃ index v c, (m.variants rule)[index]? = some v ∧ (a.recursion rule)[index]? = some c ∧
      ∃ s' ∈ variantSteps a m rule (stepKind (a.shape rule) c) v index, s'.work = s.work := by
  have hwork := List.mem_map_of_mem (f := Step.work) hs
  rw [map_work_machineOf] at hwork
  obtain ⟨s', hs', heq⟩ := List.mem_map.mp hwork
  obtain ⟨index, v, c, hv, hc, hmem⟩ := mem_unnamedSteps_iff.mp hs'
  exact ⟨index, v, c, hv, hc, s', hmem, heq⟩

lemma exists_step_of_mem {a : Analysis} {m : TypeModel} {s : Step}
    (hs : s ∈ unnamedSteps a m rule) :
    ∃ s' ∈ (machineOf a m rule).steps, s'.work = s.work := by
  have hwork := List.mem_map_of_mem (f := Step.work) hs
  rw [← map_work_machineOf] at hwork
  exact List.mem_map.mp hwork

lemma held_le_length {index : Nat} {v : Variant} {c : Recursion}
    (hshape : (g.analysis start).shape rule ≠ .general)
    (hv : (g.typeModel.variants rule)[index]? = some v)
    (hc : ((g.analysis start).recursion rule)[index]? = some c) :
    (stepKind ((g.analysis start).shape rule) c).held ≤ v.terms.length := by
  cases hkind : stepKind ((g.analysis start).shape rule) c with
  | growth =>
    obtain ⟨payload, hpayload⟩ := Grammar.terms_of_growth hv hc hshape hkind
    simp [hpayload, StepKind.held]
  | choice => exact Nat.zero_le _
  | base => exact Nat.zero_le _

lemma StepKind.held_of_ne_growth {kind : StepKind} (h : kind ≠ .growth) : kind.held = 0 := by
  cases kind with
  | growth => exact absurd rfl h
  | choice => rfl
  | base => rfl

lemma StepKind.carried?_of_ne_growth {kind : StepKind} (h : kind ≠ .growth)
    (value : Option DerivationTree) : kind.carried? value = some [] := by
  cases kind with
  | growth => exact absurd rfl h
  | choice => rfl
  | base => rfl

/-- The trees of a variant are what its steps carry over and add. -/
lemma forall₂_ruleTerms_iff {index : Nat} {v : Variant} {c : Recursion}
    (hshape : (g.analysis start).shape rule ≠ .general)
    (hv : (g.typeModel.variants rule)[index]? = some v)
    (hc : ((g.analysis start).recursion rule)[index]? = some c) {children : List DerivationTree} :
    let kind := stepKind ((g.analysis start).shape rule) c
    List.Forall₂ g.Derives v.ruleTerms children ↔
      ∃ value carried added, kind.carried? value = some carried ∧ children = carried ++ added ∧
        (∀ child ∈ value, g.Derives rule child) ∧ (kind ≠ .growth → value = none) ∧
          List.Forall₂ g.Derives (Term.rules (v.terms.drop kind.held)) added := by
  intro kind
  by_cases hkind : kind = .growth
  · obtain ⟨payload, hpayload⟩ := Grammar.terms_of_growth hv hc hshape hkind
    have hrules : v.ruleTerms = rule :: Term.rules (v.terms.drop kind.held) := by
      rw [Variant.ruleTerms, hpayload, hkind]
      rfl
    rw [hrules, List.forall₂_cons_left_iff, hkind]
    constructor
    · rintro ⟨child, added, hchild, hadded, rfl⟩
      refine ⟨some child, [child], added, rfl, rfl, ?_, fun h => absurd rfl h, hadded⟩
      rintro _ ⟨⟩
      exact hchild
    · rintro ⟨value, carried, added, hcarried, rfl, hvalue, _, hadded⟩
      obtain ⟨child, hsome, rfl⟩ := Option.map_eq_some_iff.mp hcarried
      exact ⟨child, added, hvalue child hsome, hadded, rfl⟩
  · have hrules : v.ruleTerms = Term.rules (v.terms.drop kind.held) := by
      rw [StepKind.held_of_ne_growth hkind, List.drop_zero]
      rfl
    rw [hrules]
    constructor
    · intro hadded
      refine ⟨none, [], children, StepKind.carried?_of_ne_growth hkind none, rfl, ?_,
        fun _ => rfl, hadded⟩
      rintro _ ⟨⟩
    · rintro ⟨value, carried, added, hcarried, rfl, _, _, hadded⟩
      rw [StepKind.carried?_of_ne_growth hkind] at hcarried
      cases hcarried
      exact hadded

/-! What the steps of a synthesized machine build, from the steps of its variants. -/

variable (hg : g.Closed) (hshape : (g.analysis start).shape rule ≠ .general)

include hg hshape

lemma stepsBuild_variant {index : Nat} {v : Variant} {c : Recursion}
    (hv : (g.typeModel.variants rule)[index]? = some v)
    (hc : ((g.analysis start).recursion rule)[index]? = some c) :
    let kind := stepKind ((g.analysis start).shape rule) c
    StepsBuild g rule index kind (Term.rules (v.terms.drop kind.held))
      (variantSteps (g.analysis start) g.typeModel rule kind v index) :=
  stepsBuild_variantSteps hg (held_le_length hshape hv hc)

lemma kind_choice_iff {s : Step}
    (hs : s ∈ (machineOf (g.analysis start) g.typeModel rule).steps) :
    s.kind = .choice ↔ (g.analysis start).shape rule = .flat := by
  obtain ⟨index, v, c, hv, hc, s', hs', hwork⟩ := exists_step_of_variant hs
  have hkind := (stepsBuild_variant hg hshape hv hc).kind_eq s' hs'
  rw [← (Prod.mk.inj hwork).1, hkind]
  unfold stepKind
  split
  · simp [*]
  · split <;> simp [*]

lemma exists_makes {s : Step}
    (hs : s ∈ (machineOf (g.analysis start) g.typeModel rule).steps)
    (hvalue : s.kind = .growth → value.isSome)
    (harguments : List.Forall₂ g.Derives s.selection.arguments arguments) :
    ∃ tree, s.selection.Makes g value arguments tree := by
  obtain ⟨index, v, c, hv, hc, s', hs', hwork⟩ := exists_step_of_variant hs
  have hbuild := stepsBuild_variant hg hshape hv hc
  obtain ⟨hkind, hselection⟩ := Prod.mk.inj hwork
  rw [← hkind, hbuild.kind_eq s' hs'] at hvalue
  rw [← hselection] at harguments ⊢
  by_cases hgrowth : stepKind ((g.analysis start).shape rule) c = .growth
  · obtain ⟨child, rfl⟩ := Option.isSome_iff_exists.mp (hvalue hgrowth)
    exact hbuild.total s' hs' (some child) [child] arguments (by rw [hgrowth]; rfl) harguments
  · exact hbuild.total s' hs' value [] arguments (StepKind.carried?_of_ne_growth hgrowth value)
      harguments

lemma derives_of_makes {s : Step} (hs : s ∈ (machineOf (g.analysis start) g.typeModel rule).steps)
    (hmakes : s.selection.Makes g value arguments tree)
    (hvalue : s.kind = .growth → ∀ child ∈ value, g.Derives rule child) : g.Derives rule tree := by
  obtain ⟨index, v, c, hv, hc, s', hs', hwork⟩ := exists_step_of_variant hs
  have hbuild := stepsBuild_variant hg hshape hv hc
  obtain ⟨hkind, hselection⟩ := Prod.mk.inj hwork
  rw [← hselection] at hmakes
  rw [← hkind, hbuild.kind_eq s' hs'] at hvalue
  obtain ⟨carried, added, hcarried, hadded, rfl⟩ := hbuild.sound s' hs' value arguments tree hmakes
  refine hg.derives_iff.mpr ⟨index, v, _, hv, ?_, rfl⟩
  refine (forall₂_ruleTerms_iff hshape hv hc).mpr ?_
  by_cases hgrowth : stepKind ((g.analysis start).shape rule) c = .growth
  · exact ⟨value, carried, added, hcarried, rfl, hvalue hgrowth, fun h => absurd hgrowth h, hadded⟩
  · rw [StepKind.carried?_of_ne_growth hgrowth] at hcarried
    refine ⟨none, carried, added, ?_, rfl, ?_, fun _ => rfl, hadded⟩
    · rw [StepKind.carried?_of_ne_growth hgrowth, hcarried]
    · rintro _ ⟨⟩

/-- Every tree of the rule is built by some step, from nothing or from its first child. -/
lemma exists_step_makes {index : Nat} {children : List DerivationTree}
    (h : g.Derives rule (.node rule index children)) :
    ∃ s ∈ (machineOf (g.analysis start) g.typeModel rule).steps, ∃ value arguments,
      s.selection.Makes g value arguments (.node rule index children) ∧
        (∀ child ∈ value, child ∈ children ∧ g.Derives rule child) ∧
          (s.kind = .growth ↔ value.isSome) := by
  obtain ⟨i, v, children, hv, hchildren, heq⟩ := hg.derives_iff.mp h
  cases heq
  obtain ⟨c, hc⟩ : ∃ c, ((g.analysis start).recursion rule)[index]? = some c := by
    have hlength := (List.getElem?_eq_some_iff.mp hv).1
    rw [← Grammar.length_recursion_analysis start] at hlength
    exact ⟨_, List.getElem?_eq_getElem hlength⟩
  have hbuild := stepsBuild_variant hg hshape hv hc
  obtain ⟨value, carried, added, hcarried, rfl, hvalue, hnone, hadded⟩ :=
    (forall₂_ruleTerms_iff hshape hv hc).mp hchildren
  obtain ⟨s, hs, arguments, hmakes⟩ := hbuild.complete value carried added hcarried hadded
  obtain ⟨s', hs', hwork⟩ := exists_step_of_mem (mem_unnamedSteps_iff.mpr ⟨index, v, c, hv, hc, hs⟩)
  obtain ⟨hkind, hselection⟩ := Prod.mk.inj hwork
  refine ⟨s', hs', value, arguments, by rw [hselection]; exact hmakes, ?_, ?_⟩
  · intro child hchild
    refine ⟨?_, hvalue child hchild⟩
    cases hk : stepKind ((g.analysis start).shape rule) c with
    | growth =>
      obtain ⟨tree, htree, rfl⟩ := Option.map_eq_some_iff.mp (hk ▸ hcarried)
      cases htree.symm.trans hchild
      exact List.mem_append_left _ (List.mem_singleton.mpr rfl)
    | choice => cases (hnone (by simp [hk])).symm.trans hchild
    | base => cases (hnone (by simp [hk])).symm.trans hchild
  · rw [hkind, hbuild.kind_eq s hs]
    constructor
    · intro hk
      obtain ⟨tree, htree, _⟩ := Option.map_eq_some_iff.mp (hk ▸ hcarried)
      exact Option.isSome_iff_exists.mpr ⟨tree, htree⟩
    · intro hsome
      by_contra hk
      rw [hnone hk] at hsome
      cases hsome

lemma apart_steps :
    ((machineOf (g.analysis start) g.typeModel rule).steps.map (·.selection)).Pairwise
      (Selection.Apart g) := by
  have hselection : (machineOf (g.analysis start) g.typeModel rule).steps.map (·.selection) =
      (unnamedSteps (g.analysis start) g.typeModel rule).map (·.selection) := by
    have hwork := congrArg (List.map Prod.snd)
      (map_work_machineOf (g.analysis start) g.typeModel rule)
    rwa [List.map_map, List.map_map] at hwork
  rw [hselection, unnamedSteps, List.map_flatMap, List.pairwise_flatMap]
  constructor
  · rintro ⟨⟨v, c⟩, index⟩ hmem
    obtain ⟨hv, hc⟩ := mem_zipIdx_zip_iff.mp hmem
    exact (stepsBuild_variant hg hshape hv hc).apart
  · have hindex : (((g.typeModel.variants rule).zip
        ((g.analysis start).recursion rule)).zipIdx).Pairwise fun x y => x.2 ≠ y.2 := by
      rw [← List.pairwise_map (f := Prod.snd) (R := (· ≠ ·)), List.zipIdx_map_snd]
      exact List.nodup_range'
    refine hindex.imp_of_mem ?_
    rintro ⟨⟨v, c⟩, i⟩ ⟨⟨v', c'⟩, i'⟩ hmem hmem' hne selection hsel selection' hsel'
    obtain ⟨hv, hc⟩ := mem_zipIdx_zip_iff.mp hmem
    obtain ⟨hv', hc'⟩ := mem_zipIdx_zip_iff.mp hmem'
    obtain ⟨s, hs, rfl⟩ := List.mem_map.mp hsel
    obtain ⟨s', hs', rfl⟩ := List.mem_map.mp hsel'
    intro value arguments value' arguments' tree hmakes hmakes'
    obtain ⟨_, _, _, _, rfl⟩ := (stepsBuild_variant hg hshape hv hc).sound s hs _ _ _ hmakes
    obtain ⟨_, _, _, _, heq⟩ := (stepsBuild_variant hg hshape hv' hc').sound s' hs' _ _ _ hmakes'
    injection heq with _ hi
    exact hne hi

/-- A tree is built by one step of the machine, from one value and one choice of arguments. -/
lemma makes_unique {i j : Nat}
    {s s' : Step} (hi : (machineOf (g.analysis start) g.typeModel rule).steps[i]? = some s)
    (hj : (machineOf (g.analysis start) g.typeModel rule).steps[j]? = some s')
    (hmakes : s.selection.Makes g value arguments tree)
    (hmakes' : s'.selection.Makes g value' arguments' tree) :
    i = j ∧ arguments = arguments' ∧ (s.kind = .growth → value = value') := by
  have hij : i = j := by
    by_contra hne
    have happart := apart_steps hg hshape
    rw [List.pairwise_map, List.pairwise_iff_getElem] at happart
    obtain ⟨hilt, rfl⟩ := List.getElem?_eq_some_iff.mp hi
    obtain ⟨hjlt, rfl⟩ := List.getElem?_eq_some_iff.mp hj
    rcases Nat.lt_or_gt_of_ne hne with hlt | hlt
    · exact happart i j hilt hjlt hlt _ _ _ _ _ hmakes hmakes'
    · exact happart j i hjlt hilt hlt _ _ _ _ _ hmakes' hmakes
  subst hij
  cases hi.symm.trans hj
  obtain ⟨index, v, c, hv, hc, s', hs', hwork⟩ := exists_step_of_variant (List.mem_of_getElem? hi)
  have hbuild := stepsBuild_variant hg hshape hv hc
  obtain ⟨hkind, hselection⟩ := Prod.mk.inj hwork
  rw [← hselection] at hmakes hmakes'
  obtain ⟨harguments, hcarried⟩ := hbuild.unique s' hs' _ _ _ _ _ hmakes hmakes'
  refine ⟨rfl, harguments, fun hgrowth => ?_⟩
  rw [← hkind, hbuild.kind_eq s' hs'] at hgrowth
  rw [hgrowth] at hcarried
  cases value <;> cases value' <;> simp_all [StepKind.carried?]

end Machine

/-! ### Runs of a machine -/

/-- The calls make `tree` out of nothing, by a step that begins a value and any number of steps that
grow it. -/
inductive Machine.Grows (g : Grammar) (m : Machine) : List Call → DerivationTree → Prop where
  | first {i : Nat} {s : Step} {arguments : List DerivationTree} {tree : DerivationTree}
      (hs : m.steps[i]? = some s) (hkind : s.kind ≠ .growth)
      (hmakes : s.selection.Makes g none arguments tree) : m.Grows g [⟨.step i, arguments⟩] tree
  | next {calls : List Call} {value : DerivationTree} {i : Nat} {s : Step}
      {arguments : List DerivationTree} {tree : DerivationTree} (hcalls : m.Grows g calls value)
      (hs : m.steps[i]? = some s) (hkind : s.kind = .growth)
      (hmakes : s.selection.Makes g (some value) arguments tree) :
      m.Grows g (calls ++ [⟨.step i, arguments⟩]) tree

lemma Machine.argumentsOf_step {m : Machine} {i : Nat} {s : Step} (hs : m.steps[i]? = some s) :
    m.argumentsOf (.step i) = s.selection.arguments := by
  simp [argumentsOf, hs]

lemma Machine.perform?_step {m : Machine} {i : Nat} {s : Step} (hs : m.steps[i]? = some s)
    (value : Option DerivationTree) (arguments : List DerivationTree) :
    m.perform? value ⟨.step i, arguments⟩ = (s.selection.value? value arguments).map some := by
  simp [perform?, hs]

section Run

variable {g : Grammar} {start rule : RuleId} (hg : g.Closed)
  (hshape : (g.analysis start).shape rule ≠ .general)

include hg hshape

lemma Machine.Grows.derives {calls : List Call} {tree : DerivationTree}
    (h : (machineOf (g.analysis start) g.typeModel rule).Grows g calls tree) :
    g.Derives rule tree := by
  induction h with
  | first hs hkind hmakes =>
    exact derives_of_makes hg hshape (List.mem_of_getElem? hs) hmakes fun h => absurd h hkind
  | next _ hs _ hmakes ih =>
    refine derives_of_makes hg hshape (List.mem_of_getElem? hs) hmakes fun _ => ?_
    rintro _ ⟨⟩
    exact ih

lemma exists_grows (tree : DerivationTree) (h : g.Derives rule tree) :
    ∃ calls, (machineOf (g.analysis start) g.typeModel rule).Grows g calls tree := by
  -- A tree that a growth step builds has the value that it grew as its first child.
  induction tree using DerivationTree.induct with
  | node id index children ih =>
    obtain ⟨_, _, _, _, _, heq⟩ := hg.derives_iff.mp h
    cases heq
    obtain ⟨s, hs, value, arguments, hmakes, hvalue, hkind⟩ := exists_step_makes hg hshape h
    obtain ⟨i, hi⟩ := List.mem_iff_getElem?.mp hs
    cases value with
    | none =>
      have hfirst : s.kind ≠ .growth := fun hgrowth => by simpa using hkind.mp hgrowth
      exact ⟨_, .first hi hfirst hmakes⟩
    | some child =>
      obtain ⟨hmem, hchild⟩ := hvalue child rfl
      obtain ⟨calls, hcalls⟩ := ih child hmem hchild
      exact ⟨_, .next hcalls hi (hkind.mpr rfl) hmakes⟩

lemma grows_unique {calls calls' : List Call} {tree : DerivationTree}
    (h : (machineOf (g.analysis start) g.typeModel rule).Grows g calls tree)
    (h' : (machineOf (g.analysis start) g.typeModel rule).Grows g calls' tree) :
    calls = calls' := by
  -- The tree fixes the last call by `makes_unique`, and with it the value before that call.
  induction h generalizing calls' with
  | first hs hkind hmakes =>
    cases h' with
    | first hs' hkind' hmakes' =>
      obtain ⟨rfl, rfl, _⟩ := makes_unique hg hshape hs hs' hmakes hmakes'
      rfl
    | next _ hs' hkind' hmakes' =>
      obtain ⟨rfl, _⟩ := makes_unique hg hshape hs hs' hmakes hmakes'
      cases hs.symm.trans hs'
      exact absurd hkind' hkind
  | next _ hs hkind hmakes ih =>
    cases h' with
    | first hs' hkind' hmakes' =>
      obtain ⟨rfl, _⟩ := makes_unique hg hshape hs hs' hmakes hmakes'
      cases hs.symm.trans hs'
      exact absurd hkind hkind'
    | next hcalls' hs' hkind' hmakes' =>
      obtain ⟨rfl, rfl, hvalue⟩ := makes_unique hg hshape hs hs' hmakes hmakes'
      cases hvalue hkind
      rw [ih hcalls']

/-- The steps of a machine agree with its ready state: a step that begins a value enters it, and a
step that grows one stays there. -/
lemma source_target {s : Step}
    (hs : s ∈ (machineOf (g.analysis start) g.typeModel rule).steps) :
    s.kind.target = (machineOf (g.analysis start) g.typeModel rule).ready ∧
      s.kind.source = if s.kind = .growth then
        (machineOf (g.analysis start) g.typeModel rule).ready else .initial := by
  have hchoice := kind_choice_iff hg hshape hs
  by_cases hflat : (g.analysis start).shape rule = .flat
  · have hready : (machineOf (g.analysis start) g.typeModel rule).ready = .complete := if_pos hflat
    rw [hready, hchoice.mpr hflat]
    exact ⟨rfl, rfl⟩
  · have hready : (machineOf (g.analysis start) g.typeModel rule).ready = .growing := if_neg hflat
    rw [hready]
    cases hkind : s.kind with
    | choice => exact absurd (hchoice.mp hkind) hflat
    | base => exact ⟨rfl, rfl⟩
    | growth => exact ⟨rfl, rfl⟩

/-- Growing a value is a run to the ready state with the right arguments, and evaluates to it. -/
lemma Machine.Grows.run {calls : List Call} {tree : DerivationTree}
    (h : (machineOf (g.analysis start) g.typeModel rule).Grows g calls tree) :
    let m := machineOf (g.analysis start) g.typeModel rule
    m.run? (calls.map (·.action)) = some m.ready ∧
      (∀ call ∈ calls, List.Forall₂ g.Derives (m.argumentsOf call.action) call.arguments) ∧
        calls.foldlM m.perform? none = some (some tree) := by
  intro m
  induction h with
  | first hs hkind hmakes =>
    obtain ⟨htarget, hsource⟩ := source_target hg hshape (List.mem_of_getElem? hs)
    rw [if_neg hkind] at hsource
    refine ⟨?_, ?_, ?_⟩
    · rw [← List.nil_append (List.map _ _)]
      exact run?_append_singleton.mpr
        ⟨.initial, rfl, next?_step_iff.mpr ⟨_, hs, hsource, htarget⟩⟩
    · intro call hcall
      obtain rfl := List.mem_singleton.mp hcall
      rw [argumentsOf_step hs]
      exact hmakes.1
    · rw [List.foldlM_cons, perform?_step hs, hmakes.2]
      rfl
  | next _ hs hkind hmakes ih =>
    obtain ⟨hrun, harguments, hvalue⟩ := ih
    obtain ⟨htarget, hsource⟩ := source_target hg hshape (List.mem_of_getElem? hs)
    rw [if_pos hkind] at hsource
    refine ⟨?_, ?_, ?_⟩
    · rw [List.map_append]
      exact run?_append_singleton.mpr ⟨_, hrun, next?_step_iff.mpr ⟨_, hs, hsource, htarget⟩⟩
    · intro call hcall
      rcases List.mem_append.mp hcall with hcall | hcall
      · exact harguments call hcall
      · obtain rfl := List.mem_singleton.mp hcall
        rw [argumentsOf_step hs]
        exact hmakes.1
    · rw [List.foldlM_append, hvalue, Option.bind_eq_bind, Option.bind_some, List.foldlM_cons,
        perform?_step hs, hmakes.2]
      rfl

/-- A run to the ready state with the right arguments grows some value. -/
lemma exists_grows_of_run (calls : List Call) :
    let m := machineOf (g.analysis start) g.typeModel rule
    m.run? (calls.map (·.action)) = some m.ready →
      (∀ call ∈ calls, List.Forall₂ g.Derives (m.argumentsOf call.action) call.arguments) →
        ∃ tree, m.Grows g calls tree := by
  intro m
  -- From the last call back: a step that grows nothing starts in the initial state, so it is alone.
  induction calls using List.reverseRecOn with
  | nil =>
    intro hrun
    simp [Machine.run?, Machine.ready] at hrun
    split at hrun <;> cases hrun
  | append_singleton calls call ih =>
    obtain ⟨action, arguments⟩ := call
    intro hrun harguments
    rw [List.map_append] at hrun
    obtain ⟨state, hstate, hnext⟩ := Machine.run?_append_singleton.mp hrun
    have hlast := harguments ⟨action, arguments⟩ (by simp)
    cases action with
    | build =>
      have hbuilt := (Machine.next?_build_iff.mp hnext).2
      unfold Machine.ready at hbuilt
      split at hbuilt <;> cases hbuilt
    | step i =>
      obtain ⟨s, hs, hsource, _⟩ := Machine.next?_step_iff.mp hnext
      rw [Machine.argumentsOf_step hs] at hlast
      rw [(source_target hg hshape (List.mem_of_getElem? hs)).2] at hsource
      by_cases hkind : s.kind = .growth
      · rw [if_pos hkind] at hsource
        rw [← hsource] at hstate
        obtain ⟨value, hvalue⟩ := ih hstate fun call hcall => harguments call (by simp [hcall])
        obtain ⟨tree, hmakes⟩ := exists_makes hg hshape (List.mem_of_getElem? hs)
          (fun _ => Option.isSome_some) hlast
        exact ⟨tree, .next hvalue hs hkind hmakes⟩
      · rw [if_neg hkind] at hsource
        rw [← hsource] at hstate
        obtain rfl := List.map_eq_nil_iff.mp (Machine.run?_eq_initial hstate)
        obtain ⟨tree, hmakes⟩ := exists_makes hg hshape (List.mem_of_getElem? hs)
          (fun h => absurd h hkind) hlast
        exact ⟨tree, .first hs hkind hmakes⟩

/-- The legal calls are those that grow a value and then build. -/
lemma legal_iff {calls : List Call} :
    (machineOf (g.analysis start) g.typeModel rule).Legal g calls ↔
      ∃ steps tree, calls = steps ++ [⟨.build, []⟩] ∧
        (machineOf (g.analysis start) g.typeModel rule).Grows g steps tree := by
  rw [Machine.Legal, Machine.accepts_iff]
  constructor
  · rintro ⟨⟨actions, hactions, hrun⟩, harguments⟩
    obtain ⟨steps, last, rfl, rfl, hlast⟩ := List.map_eq_append_iff.mp hactions
    obtain ⟨⟨action, arguments⟩, rfl, rfl⟩ := List.map_eq_singleton_iff.mp hlast
    obtain ⟨tree, htree⟩ := exists_grows_of_run hg hshape steps hrun
      fun call hcall => harguments call (by simp [hcall])
    have hnil := harguments ⟨.build, arguments⟩ (by simp)
    obtain rfl := List.forall₂_nil_left_iff.mp hnil
    exact ⟨steps, tree, rfl, htree⟩
  · rintro ⟨steps, tree, rfl, htree⟩
    obtain ⟨hrun, harguments, _⟩ := htree.run hg hshape
    refine ⟨⟨_, List.map_append, hrun⟩, ?_⟩
    intro call hcall
    rcases List.mem_append.mp hcall with hcall | hcall
    · exact harguments call hcall
    · obtain rfl := List.mem_singleton.mp hcall
      exact .nil

lemma evaluate?_grows {steps : List Call} {tree : DerivationTree}
    (h : (machineOf (g.analysis start) g.typeModel rule).Grows g steps tree) :
    (machineOf (g.analysis start) g.typeModel rule).evaluate? (steps ++ [⟨.build, []⟩]) =
      some tree := by
  rw [Machine.evaluate?, List.foldlM_append, (h.run hg hshape).2.2]
  rfl

theorem machineOf_derivesExactly :
    (machineOf (g.analysis start) g.typeModel rule).DerivesExactly g rule := by
  constructor
  · intro calls hlegal
    obtain ⟨steps, tree, rfl, htree⟩ := (legal_iff hg hshape).mp hlegal
    exact ⟨tree, evaluate?_grows hg hshape htree, htree.derives hg hshape⟩
  · intro tree htree
    obtain ⟨steps, hsteps⟩ := exists_grows hg hshape tree htree
    refine ⟨_, ⟨(legal_iff hg hshape).mpr ⟨steps, tree, rfl, hsteps⟩,
      evaluate?_grows hg hshape hsteps⟩, ?_⟩
    rintro calls ⟨hlegal, hvalue⟩
    obtain ⟨steps', tree', rfl, hsteps'⟩ := (legal_iff hg hshape).mp hlegal
    rw [evaluate?_grows hg hshape hsteps'] at hvalue
    cases hvalue
    rw [grows_unique hg hshape hsteps hsteps']

end Run

/-- Builders are exactly the derivations. A flat or left recursive rule of an analyzed grammar gets
a machine, any other rule a contract, and what it gets builds every tree of the rule in one way
and nothing else. -/
theorem synthesize_derivesExactly {g : Grammar} {start : Option Name} {a : Analysis}
    (h : g.analyze start = .ok a) {rule : RuleId} (hrule : rule < g.size) :
    (a.shape rule ≠ .general → ∃ m : Machine,
      (synthesize a g.typeModel)[rule]? = some (.incremental m) ∧ m.DerivesExactly g rule) ∧
    (a.shape rule = .general → ∃ c : Contract,
      (synthesize a g.typeModel)[rule]? = some (.composition c) ∧ c.DerivesExactly g rule) := by
  have hg := Grammar.closed_of_analyze h
  obtain ⟨rfl, _⟩ := Grammar.analyze_eq_ok h
  have hprotocol : (synthesize (g.analysis (g.startRule start)) g.typeModel)[rule]? =
      some (protocolOf (g.analysis (g.startRule start)) g.typeModel rule) := by
    have hsize : rule < (g.analysis (g.startRule start)).grammar.size := hrule
    simp [synthesize, Analysis.ruleIds, hsize]
  rw [hprotocol]
  constructor
  · intro hshape
    exact ⟨_, by rw [protocolOf, if_neg hshape], machineOf_derivesExactly hg hshape⟩
  · intro hshape
    exact ⟨_, by rw [protocolOf, if_pos hshape], contractOf_derivesExactly hg rule⟩

/-- Numbers in any depth of parentheses. A number is left recursive, a digit flat and a group
neither. -/
def nestedNumbers : Grammar :=
  let digit : Name := ⟨[⟨"digit".toList, by decide⟩], by simp⟩
  let number : Name := ⟨[⟨"number".toList, by decide⟩], by simp⟩
  let group : Name := ⟨[⟨"group".toList, by decide⟩], by simp⟩
  { rules := [
      ⟨digit, ⟨[[.literal ⟨['0'], by decide⟩], [.literal ⟨['1'], by decide⟩]], by simp⟩⟩,
      ⟨number, ⟨[[.reference digit], [.reference number, .reference digit]], by simp⟩⟩,
      ⟨group, ⟨[[.reference number], [.literal ⟨['('], by decide⟩, .reference group,
        .literal ⟨[')'], by decide⟩]], by simp⟩⟩]
    rules_ne_nil := by simp }

theorem synthesize_nestedNumbers_derivesExactly :
    nestedNumbers.analyze none = .ok (nestedNumbers.analysis 0) ∧
      (∃ m : Machine, (synthesize (nestedNumbers.analysis 0) nestedNumbers.typeModel)[1]? =
        some (.incremental m) ∧ m.DerivesExactly nestedNumbers 1) ∧
      ∃ c : Contract, (synthesize (nestedNumbers.analysis 0) nestedNumbers.typeModel)[2]? =
        some (.composition c) ∧ c.DerivesExactly nestedNumbers 2 := by
  have h : nestedNumbers.analyze none = .ok (nestedNumbers.analysis 0) := by cbv
  refine ⟨h, ?_, ?_⟩
  · exact (synthesize_derivesExactly h (by decide)).1 (by decide +kernel)
  · exact (synthesize_derivesExactly h (by decide)).2 (by decide +kernel)

end TypedGrammar
