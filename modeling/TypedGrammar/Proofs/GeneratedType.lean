import Mathlib
import TypedGrammar.Proofs.ExpressionType
import TypedGrammar.Proofs.RefinementHierarchy
import TypedGrammar.Proofs.StepName

/-!
# Types in generated code

The parts of generated code fit together. The conversions, the steps of builders and the constructors make
values of the enums that are declared, from what they are given and nothing else, and displaying a variant
writes its terms.
-/

namespace TypedGrammar.Code

/-- The method of a state makes a value out of the one that the state holds, or hands that one on. -/
def StateMethod.Fits (code : Module) (rule : RuleId) (state : BuilderState) : StateMethod → Prop
  | .step method target =>
    method.Makes code (state.held? rule) rule ∧ target.held? rule = some rule
  | .build target => state.held? rule = some rule ∧ target.held? rule = some rule

/-- The methods of a builder fit the states they are declared for, and constructors make values. -/
def BuilderItem.Fits (code : Module) : BuilderItem → Prop
  | .machine rule _ states => ∀ item ∈ states, ∀ method ∈ item.methods, method.Fits code rule item.state
  | .constructors rule functions =>
    ∀ function ∈ functions, function.Makes code none rule

def BuilderItem.rule : BuilderItem → RuleId
  | .machine rule _ _ | .constructors rule _ => rule

/-- The field that is written. -/
def Write.field? : Write → Option ℕ
  | .field n => some n
  | .text _ => none

/-- The term that is written, among the terms of a variant with these fields. -/
def Write.term? (fields : List Field) : Write → Option Term
  | .field n => fields[n]?.map fun field => .rule field.rule
  | .text line => some (.literal line)

/-- The arm binds every field of the variant, and writes each of them once and all terms in order. -/
structure DisplayArm.Shows (arm : DisplayArm) (fields : List Field) (terms : List Term) : Prop where
  fields_eq : arm.fields = fields.length
  writes_fields : arm.writes.filterMap Write.field? = List.range fields.length
  writes_terms : arm.writes.map (Write.term? fields) = (terms.filter (· ≠ .empty)).map some

variable {g : Grammar} {start rule sub sup : RuleId} {name : List Char} {a : Analysis} {m : TypeModel}
  {code : Module} {fields : List Field} {terms : List Term} {index : ℕ} {v : Variant}

/-! ### Enums -/

/-- An enum is declared with the rules that its variants hold as their fields. -/
lemma declares_generate_iff :
    (generate name (.ofAnalysis (g.analysis start))).Declares rule index fields ↔
      ∃ v, (g.typeModel.variants rule)[index]? = some v ∧
        fields = fieldsOf (g.analysis start) rule v.terms := by
  have henums : (generate name (.ofAnalysis (g.analysis start))).enums =
      g.typeModel.capabilities.map (enumItem (g.analysis start)) := rfl
  rw [Module.Declares, henums]
  simp only [List.mem_map, exists_exists_and_eq_and]
  constructor
  · rintro ⟨c, hc, rfl, hfields⟩
    rw [enumItem, List.getElem?_map] at hfields
    obtain ⟨v, hv, rfl⟩ := Option.map_eq_some_iff.mp hfields
    rw [show (enumItem (g.analysis start) c).rule = c.rule from rfl, Grammar.variants_typeModel_of_mem hc]
    exact ⟨v, hv, rfl⟩
  · rintro ⟨v, hv, rfl⟩
    obtain ⟨c, hc, rfl, _⟩ := Grammar.mem_variants_typeModel_iff.mp (List.mem_of_getElem? hv)
    rw [Grammar.variants_typeModel_of_mem hc] at hv
    refine ⟨c, hc, rfl, ?_⟩
    rw [enumItem, List.getElem?_map, hv]
    rfl

lemma declaresModel_generate :
    (generate name (.ofAnalysis (g.analysis start))).DeclaresModel (g.analysis start) g.typeModel :=
  fun _ _ v hv => declares_generate_iff.mpr ⟨v, hv, rfl⟩

/-! ### Conversions -/

lemma exists_conversionItem? (h : (sub, sup) ∈ g.typeModel.refinements) :
    ∃ index v, (g.typeModel.variants sup)[index]? = some v ∧ v.terms = [.rule sub] ∧
      conversionItem? a g.typeModel (sub, sup) =
        some ⟨sub, sup, .variant sup index [.asField a sup sub .input]⟩ := by
  obtain ⟨w, hw, hrefines⟩ := Grammar.mem_refinements_typeModel_iff.mp h
  have hsome : ((g.typeModel.variants sup).findIdx? (·.refines = some sub)).isSome := by
    rw [List.findIdx?_isSome, List.any_eq_true]
    exact ⟨w, hw, by simpa using hrefines⟩
  obtain ⟨index, hindex⟩ := Option.isSome_iff_exists.mp hsome
  obtain ⟨hlt, hfound, _⟩ := List.findIdx?_eq_some_iff_getElem.mp hindex
  refine ⟨index, _, List.getElem?_eq_getElem hlt, ?_, ?_⟩
  · exact Grammar.terms_of_refines (List.getElem_mem hlt) (by simpa using hfound)
  · rw [conversionItem?, hindex]
    rfl

/-- There is a conversion for each refinement, and it applies a variant of the one rule to a value of the
other. -/
theorem conversions_generate :
    let code := generate name (.ofAnalysis (g.analysis start))
    code.conversions.map (fun item => (item.sub, item.sup)) = g.typeModel.refinements ∧
      ∀ item ∈ code.conversions, item.body.Applies code ⟨some item.sub, none, []⟩ item.sup := by
  intro code
  have hconversions : code.conversions =
      g.typeModel.refinements.filterMap (conversionItem? (g.analysis start) g.typeModel) := rfl
  rw [hconversions]
  constructor
  · rw [List.map_filterMap]
    conv_rhs => rw [← List.filterMap_some (l := g.typeModel.refinements)]
    refine List.filterMap_congr fun edge hedge => ?_
    obtain ⟨index, v, _, _, hitem⟩ := exists_conversionItem? (a := g.analysis start) hedge
    rw [hitem]
    rfl
  · intro item hitem
    obtain ⟨⟨sub, sup⟩, hedge, hitem⟩ := List.mem_filterMap.mp hitem
    obtain ⟨index, v, hv, hterms, hitem'⟩ := exists_conversionItem? (a := g.analysis start) hedge
    cases hitem'.symm.trans hitem
    have hdeclares : code.Declares sup index _ := declaresModel_generate sup index v hv
    rw [hterms] at hdeclares
    exact ⟨index, _, _, rfl, hdeclares, .asField (.input rfl) .nil⟩

/-! ### Builders -/

lemma rules_cons_rule (id : RuleId) (terms : List Term) :
    Term.rules (.rule id :: terms) = id :: Term.rules terms :=
  rfl

/-- Fills that leave everything to the caller are given the parameters, one after another. -/
lemma fieldExprs_terms (terms : List Term) (n : ℕ) :
    fieldExprs a m rule (terms.map Term.fill) terms n =
      (((Term.rules terms).zipIdx n).map fun entry => .asField a rule entry.1 (.parameter entry.2),
        n + (Term.rules terms).length) := by
  induction terms generalizing n with
  | nil => rfl
  | cons term terms ih =>
    cases term with
    | rule id =>
      rw [List.map_cons, Term.fill, fieldExprs_rule rfl, ih, rules_cons_rule, List.zipIdx_cons,
        List.map_cons, List.length_cons, Nat.add_right_comm, Nat.add_assoc]
    | literal text => exact ih n
    | empty => exact ih n

/-- A constructor makes what a selection makes that leaves everything to the caller. -/
lemma constructorMethod_eq {c : Constructor} (hv : (m.variants rule)[c.variant]? = some v)
    (hparameters : c.parameters = v.ruleTerms) (name : List Char) :
    let s : Selection := ⟨rule, c.variant, v.terms.map Term.fill⟩
    constructorMethod a rule c name = ⟨name, s.arguments, selectionExpr a m s⟩ := by
  intro s
  have harguments : s.arguments = v.ruleTerms := arguments_terms v.terms
  rw [constructorMethod, harguments, hparameters, selectionExpr, terms_of_variant hv, fieldExprs_terms]
  rfl

lemma held?_target (kind : StepKind) : kind.target.held? rule = some rule := by
  cases kind <;> rfl

lemma held?_ready (machine : Machine) : machine.ready.held? rule = some rule := by
  rw [Machine.ready]
  split <;> rfl

/-- The methods of a state make values out of what the state holds. -/
lemma fits_of_mem_stateItem (hcode : code.DeclaresModel a m) {machine : Machine}
    (hsteps : ∀ s ∈ machine.steps,
      s.selection.Supplies m (s.kind.source.held? machine.rule) machine.rule)
    {state : BuilderState} {method : StateMethod}
    (hmethod : method ∈ (stateItem a m machine state).methods) :
    method.Fits code machine.rule state := by
  rcases List.mem_append.mp hmethod with hmethod | hmethod
  · obtain ⟨⟨step, name⟩, hentry, rfl⟩ := List.mem_map.mp hmethod
    obtain ⟨⟨i, step⟩, hstep, rfl⟩ := List.mem_map.mp (List.of_mem_zip hentry).1
    obtain ⟨hs, rfl⟩ := Machine.mem_stepsFrom_iff.mp hstep
    have hsupplies := hsteps step (List.mem_of_getElem? hs)
    exact ⟨makes_selectionExpr hsupplies hcode name, held?_target step.kind⟩
  · split at hmethod
    · rename_i hready
      rw [List.mem_singleton.mp hmethod, hready]
      exact ⟨held?_ready machine, rfl⟩
    · cases hmethod

lemma fits_contractItem (hcode : code.DeclaresModel a m) (rule : RuleId) :
    (contractItem a (contractOf m rule)).Fits code := by
  intro function hfunction
  obtain ⟨⟨c, name⟩, hentry, rfl⟩ := List.mem_map.mp hfunction
  obtain ⟨v, hv, hparameters⟩ := exists_variant_of_mem_constructors (List.of_mem_zip hentry).1
  have hsupplies : Selection.Supplies m none rule ⟨rule, c.variant, v.terms.map Term.fill⟩ :=
    ⟨rfl, v, hv, Fill.supply_terms v.terms⟩
  have hmakes := makes_selectionExpr (a := a) hsupplies hcode name
  rwa [← constructorMethod_eq hv hparameters] at hmakes

lemma map_rule_builders : (generate name (.ofAnalysis (g.analysis start))).builders.map (·.rule) =
    (g.analysis start).ruleIds := by
  have hbuilders : (generate name (.ofAnalysis (g.analysis start))).builders =
      ((g.analysis start).ruleIds.map (protocolOf (g.analysis start) g.typeModel)).map
        (builderItem (g.analysis start) g.typeModel) := rfl
  rw [hbuilders, List.map_map, List.map_map]
  refine (List.map_congr_left fun rule _ => ?_).trans (List.map_id _)
  rw [Function.comp_apply, Function.comp_apply, protocolOf]
  split <;> rfl

/-- Builders take over only what they hold, and pass each parameter on once and in order. -/
theorem fits_of_mem_builders {item : BuilderItem}
    (hitem : item ∈ (generate name (.ofAnalysis (g.analysis start))).builders) :
    item.Fits (generate name (.ofAnalysis (g.analysis start))) := by
  have hcode : (generate name (.ofAnalysis (g.analysis start))).DeclaresModel (g.analysis start)
      g.typeModel := declaresModel_generate
  obtain ⟨protocol, hprotocol, rfl⟩ := List.mem_map.mp hitem
  obtain ⟨rule, _, rfl⟩ := List.mem_map.mp hprotocol
  rw [protocolOf]
  split
  · exact fits_contractItem hcode rule
  · rename_i hshape
    intro item hitem method hmethod
    obtain ⟨state, _, rfl⟩ := List.mem_map.mp (List.mem_of_mem_filter hitem)
    exact fits_of_mem_stateItem hcode (fun s hs => supplies_machineOf hshape hs) hmethod

/-! ### Displays -/

lemma filterMap_field?_writes (n : ℕ) (terms : List Term) :
    (writes n terms).filterMap Write.field? = List.range' n (Term.rules terms).length := by
  induction terms generalizing n with
  | nil => rfl
  | cons term terms ih =>
    cases term with
    | rule id =>
      rw [writes, List.filterMap_cons_some (f := Write.field?) rfl, ih, rules_cons_rule,
        List.length_cons, List.range'_succ]
    | literal text => exact ih n
    | empty => exact ih n

/-- The terms from the `n`th field on are written in their order. -/
lemma map_term?_writes {n : ℕ} (h : (fields.drop n).map (·.rule) = Term.rules terms) :
    (writes n terms).map (Write.term? fields) = (terms.filter (· ≠ .empty)).map some := by
  induction terms generalizing n with
  | nil => rfl
  | cons term terms ih =>
    cases term with
    | rule id =>
      have hhead := congrArg (·[0]?) h
      have htail := congrArg List.tail h
      simp only [List.getElem?_map, List.getElem?_drop] at hhead
      rw [← List.map_tail, List.tail_drop] at htail
      obtain ⟨field, hfield, hrule⟩ := Option.map_eq_some_iff.mp hhead
      rw [writes, List.map_cons, ih htail, List.filter_cons_of_pos (by simp), List.map_cons, Write.term?]
      rw [show fields[n]? = some field from hfield, Option.map_some, hrule]
    | literal text =>
      rw [writes, List.map_cons, ih h, List.filter_cons_of_pos (by simp), List.map_cons]
      rfl
    | empty => exact ih h

lemma shows_displayArm (v : Variant) : (displayArm v).Shows (fieldsOf a rule v.terms) v.terms where
  fields_eq := by
    rw [fieldsOf, List.length_map]
    rfl
  writes_fields := by
    rw [displayArm, filterMap_field?_writes, fieldsOf, List.length_map, List.range_eq_range']
  writes_terms := by
    refine map_term?_writes ?_
    rw [fieldsOf, List.drop_zero, List.map_map]
    exact List.map_id _

/-- Every rule is displayed, by an arm for each variant. -/
theorem displays_generate :
    let code := generate name (.ofAnalysis (g.analysis start))
    code.displays.map (·.rule) = (g.analysis start).ruleIds ∧ ∀ item ∈ code.displays,
      item.arms.length = (g.typeModel.variants item.rule).length ∧
        ∀ index arm, item.arms[index]? = some arm → ∃ v fields,
          (g.typeModel.variants item.rule)[index]? = some v ∧ code.Declares item.rule index fields ∧
            arm.Shows fields v.terms := by
  intro code
  have hdisplays : code.displays = g.typeModel.capabilities.map displayItem := rfl
  rw [hdisplays]
  constructor
  · rw [List.map_map]
    exact g.map_rule_capabilities
  · intro item hitem
    obtain ⟨c, hc, rfl⟩ := List.mem_map.mp hitem
    rw [show (displayItem c).rule = c.rule from rfl, Grammar.variants_typeModel_of_mem hc]
    refine ⟨List.length_map _, fun index arm harm => ?_⟩
    rw [displayItem, List.getElem?_map] at harm
    obtain ⟨v, hv, rfl⟩ := Option.map_eq_some_iff.mp harm
    have hv' := hv
    rw [← Grammar.variants_typeModel_of_mem hc] at hv'
    exact ⟨v, _, hv, declaresModel_generate _ _ v hv', shows_displayArm v⟩

/-! ### Generated code -/

/-- The code that is generated for an analyzed grammar fits the enums it declares. A variant is declared
with a field for each rule it holds, in a box where the rule leads back to the owner. Conversions, the
methods of builders and constructors make values of their types from what they are given: a variant applied
to a value for each field, in a box exactly where the field is, with each parameter used once and in order.
Displaying a variant writes its terms in order. -/
theorem generate_fits (name : List Char) {start : Option Name} (h : g.analyze start = .ok a) :
    let m := a.grammar.typeModel
    let code := generate name (.ofAnalysis a)
    (∀ rule index fields, code.Declares rule index fields ↔
      ∃ v, (m.variants rule)[index]? = some v ∧ fields = fieldsOf a rule v.terms) ∧
    (code.conversions.map (fun item => (item.sub, item.sup)) = m.refinements ∧
      ∀ item ∈ code.conversions, item.body.Applies code ⟨some item.sub, none, []⟩ item.sup) ∧
    (code.builders.map (·.rule) = a.ruleIds ∧ ∀ item ∈ code.builders, item.Fits code) ∧
    code.displays.map (·.rule) = a.ruleIds ∧ ∀ item ∈ code.displays,
      item.arms.length = (m.variants item.rule).length ∧
        ∀ index arm, item.arms[index]? = some arm → ∃ v fields,
          (m.variants item.rule)[index]? = some v ∧ code.Declares item.rule index fields ∧
            arm.Shows fields v.terms := by
  obtain ⟨rfl, _⟩ := Grammar.analyze_eq_ok h
  refine ⟨fun rule index fields => declares_generate_iff, conversions_generate, ?_, displays_generate⟩
  exact ⟨map_rule_builders, fun item hitem => fits_of_mem_builders hitem⟩

/-- A number with a digit after it holds the number in a box, and is built so. -/
theorem generate_nestedNumbers_fits :
    let code := generate "numbers".toList (.ofAnalysis (nestedNumbers.analysis 0))
    code.Declares 1 1 [⟨1, true⟩, ⟨0, false⟩] ∧
      code.builders.map (·.rule) = [0, 1, 2] ∧ ∀ item ∈ code.builders, item.Fits code := by
  have h : nestedNumbers.analyze none = .ok (nestedNumbers.analysis 0) := by cbv
  obtain ⟨hdeclares, _, ⟨hrules, hfits⟩, _⟩ := generate_fits "numbers".toList h
  refine ⟨(hdeclares 1 1 _).mpr ?_, hrules, hfits⟩
  have hvariant : ∃ v, (nestedNumbers.typeModel.variants 1)[1]? = some v ∧
      fieldsOf (nestedNumbers.analysis 0) 1 v.terms = [⟨1, true⟩, ⟨0, false⟩] := by
    rw [← Option.map_eq_some_iff]
    decide +kernel
  obtain ⟨v, hv, hfields⟩ := hvariant
  exact ⟨v, hv, hfields.symm⟩

end TypedGrammar.Code
