import TypedGrammar.Proofs.BuilderDerivation

/-!
# Selections that supply their terms

A selection is of use for a value only if its fills match the terms of its variant one for one: the value
so far where the variant holds its own rule, what the caller supplies where it holds another, and a fixed
value only of the rule it stands for. All selections in synthesized builders are like that, and what they
fix leaves nothing open at any depth.
-/

namespace TypedGrammar

/-- The fills supply the terms with what they hold, where the value built so far is of the rule `held`. A
fixed value is built from nothing that is supplied. -/
inductive Fill.Supply (m : TypeModel) : Option RuleId → List Fill → List Term → Prop
  | nil {held : Option RuleId} : Fill.Supply m held [] []
  | previous {rule : RuleId} {fills : List Fill} {terms : List Term}
      (hrest : Fill.Supply m (some rule) fills terms) :
      Fill.Supply m (some rule) (.previous :: fills) (.rule rule :: terms)
  | literal {held : Option RuleId} {text : Line} {fills : List Fill} {terms : List Term}
      (hrest : Fill.Supply m held fills terms) :
      Fill.Supply m held (.literal text :: fills) (.literal text :: terms)
  | empty {held : Option RuleId} {fills : List Fill} {terms : List Term}
      (hrest : Fill.Supply m held fills terms) :
      Fill.Supply m held (.empty :: fills) (.empty :: terms)
  | argument {held : Option RuleId} {rule : RuleId} {fills : List Fill} {terms : List Term}
      (hrest : Fill.Supply m held fills terms) :
      Fill.Supply m held (.argument rule :: fills) (.rule rule :: terms)
  | fixed {held : Option RuleId} {rule : RuleId} {index : ℕ} {v : Variant} {inner fills : List Fill}
      {terms : List Term} (hv : (m.variants rule)[index]? = some v)
      (hclosed : inner.filterMap Fill.argument? = []) (hinner : Fill.Supply m none inner v.terms)
      (hrest : Fill.Supply m held fills terms) :
      Fill.Supply m held (.fixed rule index inner :: fills) (.rule rule :: terms)

namespace Selection

/-- The selection is of a variant of the rule, whose terms it supplies. -/
structure Supplies (m : TypeModel) (held : Option RuleId) (rule : RuleId) (s : Selection) : Prop where
  rule_eq : s.rule = rule
  supply : ∃ v, (m.variants rule)[s.variant]? = some v ∧ Fill.Supply m held s.fills v.terms

end Selection

/-- The rule of the value that a builder of the rule holds in the state, if it holds one. -/
def BuilderState.held? (rule : RuleId) : BuilderState → Option RuleId
  | .initial => none
  | .growing | .complete | .built => some rule

variable {a : Analysis} {m : TypeModel} {held : Option RuleId} {rule : RuleId} {index : ℕ} {v : Variant}
  {fills others : List Fill} {terms rest : List Term}

namespace Fill

lemma Supply.append (h : Supply m held fills terms) (h' : Supply m held others rest) :
    Supply m held (fills ++ others) (terms ++ rest) := by
  induction h with
  | nil => exact h'
  | previous _ ih => exact .previous (ih h')
  | literal _ ih => exact .literal (ih h')
  | empty _ ih => exact .empty (ih h')
  | argument _ ih => exact .argument (ih h')
  | fixed hv hclosed hinner _ _ ih => exact .fixed hv hclosed hinner (ih h')

/-- Terms are supplied when their rules are left to the caller. -/
lemma supply_terms (terms : List Term) : Supply m held (terms.map Term.fill) terms := by
  induction terms with
  | nil => exact .nil
  | cons term terms ih =>
    cases term with
    | rule id => exact .argument ih
    | literal text => exact .literal ih
    | empty => exact .empty ih

end Fill

/-! ### Fixed values -/

/-- The selection supplies its terms without a value so far, and the caller supplies nothing. -/
structure Selection.Fixes (m : TypeModel) (rule : RuleId) (s : Selection) : Prop
    extends s.Supplies m none rule where
  arguments_eq : s.arguments = []

lemma Selection.Fixes.supply_cons {s : Selection} (h : s.Fixes m rule)
    (hrest : Fill.Supply m held fills terms) :
    Fill.Supply m held (s.fill :: fills) (.rule rule :: terms) := by
  obtain ⟨⟨rfl, v, hv, hfills⟩, harguments⟩ := h
  exact .fixed hv harguments hfills hrest

/-- A variant that is enumerated holds at most one value, which is fixed in turn. -/
lemma fixes_of_mem_enumerate? {inner : RuleId → Option (List NamedSelection)}
    (hinner : ∀ sub values, inner sub = some values → ∀ value ∈ values, value.selection.Fixes m sub)
    (hv : (m.variants rule)[index]? = some v) {values : List NamedSelection}
    (h : v.enumerate? inner rule index = some values) {value : NamedSelection}
    (hvalue : value ∈ values) :
    value.selection.Fixes m rule := by
  unfold Variant.enumerate? at h
  split at h
  · rename_i sub hterms
    obtain ⟨others, hothers, rfl⟩ := Option.map_eq_some_iff.mp h
    obtain ⟨other, hother, rfl⟩ := List.mem_map.mp hvalue
    refine ⟨⟨rfl, v, hv, ?_⟩, rfl⟩
    rw [hterms]
    exact (hinner sub others hothers other hother).supply_cons .nil
  · split at h
    · rename_i hterminal
      cases h
      obtain rfl := List.mem_singleton.mp hvalue
      refine ⟨⟨rfl, v, hv, Fill.supply_terms v.terms⟩, ?_⟩
      rw [Selection.arguments, arguments_terms]
      exact of_decide_eq_true hterminal
    · cases h

/-- However deep an enumeration looks, nothing that it fixes is left open. -/
theorem fixes_of_mem_enumerateWithin {depth : ℕ} {values : List NamedSelection}
    (h : enumerateWithin a m depth rule = some values) {value : NamedSelection}
    (hvalue : value ∈ values) :
    value.selection.Fixes m rule := by
  induction depth generalizing rule values value with
  | zero => cases h
  | succ depth ih =>
    obtain ⟨index, v, list, hv, henumerate, hvalue⟩ := exists_variant_of_mem_values h hvalue
    exact fixes_of_mem_enumerate? (fun _ _ hinner _ => ih hinner) hv henumerate hvalue

/-! ### Steps -/

section Variant

variable {kind : StepKind} (hv : (m.variants rule)[index]? = some v)
  (hgrowth : kind = .growth → ∃ payload, v.terms = .rule rule :: payload)
include hgrowth

/-- What a step takes over is the value that the state it leaves holds. -/
lemma supply_held : Fill.Supply m (kind.source.held? rule)
    ((v.terms.take kind.held).map fun _ => .previous) (v.terms.take kind.held) := by
  cases kind with
  | growth =>
    obtain ⟨payload, hpayload⟩ := hgrowth rfl
    rw [hpayload]
    exact .previous .nil
  | choice => exact .nil
  | base => exact .nil

include hv

lemma supplies_openStep :
    (openStep a rule kind v index).selection.Supplies m (kind.source.held? rule) rule := by
  refine ⟨rfl, v, hv, ?_⟩
  have hsupply := (supply_held hgrowth (m := m)).append (Fill.supply_terms (v.terms.drop kind.held))
  rwa [List.take_append_drop] at hsupply

lemma supplies_fixedStep {place : ℕ} {id : RuleId}
    (hplace : argumentPlaces (v.terms.drop kind.held) = [(place, id)]) {value : NamedSelection}
    (hvalue : value.selection.Fixes m id) :
    (fixedStep a rule kind v index place value).selection.Supplies m (kind.source.held? rule) rule := by
  obtain ⟨before, after, hpayload, rfl, _, _⟩ := exists_append_of_argumentPlaces hplace
  refine ⟨rfl, v, hv, ?_⟩
  have hfixed : Fill.Supply m (kind.source.held? rule)
      (((v.terms.drop kind.held).map Term.fill).set before.length value.selection.fill)
      (v.terms.drop kind.held) := by
    rw [hpayload, set_fill]
    exact (Fill.supply_terms before).append (hvalue.supply_cons (Fill.supply_terms after))
  have hsupply := (supply_held hgrowth (m := m)).append hfixed
  rwa [List.take_append_drop] at hsupply

/-- The steps of a variant supply its terms, whether its payload is enumerated or left open. -/
theorem supplies_variantSteps {s : Step} (hs : s ∈ variantSteps a m rule kind v index) :
    s.kind = kind ∧ s.selection.Supplies m (kind.source.held? rule) rule := by
  unfold variantSteps at hs
  split at hs
  · rename_i place id hplace
    split at hs
    · rename_i values hvalues
      obtain ⟨value, hvalue, rfl⟩ := List.mem_map.mp hs
      exact ⟨rfl, supplies_fixedStep hv hgrowth hplace (fixes_of_mem_enumerateWithin hvalues hvalue)⟩
    · rw [List.mem_singleton.mp hs]
      exact ⟨rfl, supplies_openStep hv hgrowth⟩
  · rw [List.mem_singleton.mp hs]
    exact ⟨rfl, supplies_openStep hv hgrowth⟩

end Variant

/-- Every step of a synthesized machine supplies the terms of its variant, and takes over the value of the
machine's rule that the state it leaves holds. -/
theorem supplies_machineOf {g : Grammar} {start : RuleId}
    (hshape : (g.analysis start).shape rule ≠ .general) {s : Step}
    (hs : s ∈ (machineOf (g.analysis start) g.typeModel rule).steps) :
    s.selection.Supplies g.typeModel (s.kind.source.held? rule) rule := by
  obtain ⟨index, v, c, hv, hc, s', hs', hwork⟩ := exists_step_of_variant hs
  obtain ⟨hkind, hselection⟩ := Prod.mk.inj hwork
  obtain ⟨hkind', hsupplies⟩ := supplies_variantSteps hv (Grammar.terms_of_growth hv hc hshape) hs'
  rw [← hkind, ← hselection, hkind']
  exact hsupplies

/-- Every constructor of a contract leaves all rules of its variant to the caller. -/
lemma exists_variant_of_mem_constructors {c : Constructor} (hc : c ∈ (contractOf m rule).constructors) :
    ∃ v, (m.variants rule)[c.variant]? = some v ∧ c.parameters = v.ruleTerms := by
  obtain ⟨⟨v, index⟩, hv, rfl⟩ := List.mem_map.mp hc
  exact ⟨v, List.mem_zipIdx_iff_getElem?.mp hv, rfl⟩

end TypedGrammar
