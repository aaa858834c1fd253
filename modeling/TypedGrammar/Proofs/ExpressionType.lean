import TypedGrammar.Code.Generation
import TypedGrammar.Proofs.SuppliedSelection

/-!
# Types of generated expressions

An expression in generated code is a value of an enum: what a method is given, or a variant with a value
for each of its fields. The typing rules follow the enums that the code declares, and box a value exactly
where a field is declared with a box. The expression for a selection is well typed when its fills supply
the terms of its variant, and uses each parameter once.
-/

namespace TypedGrammar

namespace Code

/-! ### Typing rules -/

/-- The enum of the rule is declared with these fields in the variant at the index. -/
def Module.Declares (code : Module) (rule : RuleId) (index : ℕ) (fields : List Field) : Prop :=
  ∃ item ∈ code.enums, item.rule = rule ∧ item.variants[index]? = some fields

/-- What an expression can refer to: the value that a conversion is given, the value built so far, and the
parameters, each of the rule whose enum it has. -/
structure Context where
  input : Option RuleId
  previous : Option RuleId
  parameters : List RuleId

mutual

/-- The expression is a value of the enum of the rule. -/
inductive Expr.HasType (code : Module) (Γ : Context) : Expr → RuleId → Prop
  | input {rule : RuleId} (h : Γ.input = some rule) : Expr.HasType code Γ .input rule
  | previous {rule : RuleId} (h : Γ.previous = some rule) : Expr.HasType code Γ .previous rule
  | parameter {n : ℕ} {rule : RuleId} (h : Γ.parameters[n]? = some rule) :
      Expr.HasType code Γ (.parameter n) rule
  | variant {rule : RuleId} {index : ℕ} {values : List Expr} {fields : List Field}
      (hfields : code.Declares rule index fields) (hvalues : Expr.Fit code Γ values fields) :
      Expr.HasType code Γ (.variant rule index values) rule

/-- The expressions are what the fields are declared to hold, one for each and in their order. -/
inductive Expr.Fit (code : Module) (Γ : Context) : List Expr → List Field → Prop
  | nil : Expr.Fit code Γ [] []
  | bare {value : Expr} {rule : RuleId} {values : List Expr} {fields : List Field}
      (hvalue : Expr.HasType code Γ value rule) (hrest : Expr.Fit code Γ values fields) :
      Expr.Fit code Γ (value :: values) (⟨rule, false⟩ :: fields)
  | boxed {value : Expr} {rule : RuleId} {values : List Expr} {fields : List Field}
      (hvalue : Expr.HasType code Γ value rule) (hrest : Expr.Fit code Γ values fields) :
      Expr.Fit code Γ (.boxed value :: values) (⟨rule, true⟩ :: fields)

end

mutual

/-- The parameters that the expression uses, in the order it is written in. -/
def Expr.parameters : Expr → List ℕ
  | .input | .previous => []
  | .parameter n => [n]
  | .boxed value => value.parameters
  | .variant _ _ values => Expr.parametersOfAll values

def Expr.parametersOfAll : List Expr → List ℕ
  | [] => []
  | value :: values => value.parameters ++ Expr.parametersOfAll values

end

/-- The expression applies a variant of the rule to a value for each of its fields. -/
def Expr.Applies (code : Module) (Γ : Context) (value : Expr) (rule : RuleId) : Prop :=
  ∃ index values fields, value = .variant rule index values ∧ code.Declares rule index fields ∧
    Expr.Fit code Γ values fields

/-- The function applies a variant of the rule, to the value built so far if one is needed, and uses each of
its parameters once and in order. -/
structure Method.Makes (code : Module) (previous : Option RuleId) (method : Method)
    (rule : RuleId) : Prop where
  applies : method.body.Applies code ⟨none, previous, method.parameters⟩ rule
  parameters_eq : method.body.parameters = List.range method.parameters.length

/-- The fields that hold the terms of a variant of the owner. -/
def fieldsOf (a : Analysis) (owner : RuleId) (terms : List Term) : List Field :=
  (Term.rules terms).map fun rule => ⟨rule, isBoxed a owner rule⟩

/-- The variants of the model are declared with fields for the rules that they hold. -/
def Module.DeclaresModel (code : Module) (a : Analysis) (m : TypeModel) : Prop :=
  ∀ rule index v, (m.variants rule)[index]? = some v →
    code.Declares rule index (fieldsOf a rule v.terms)

variable {a : Analysis} {m : TypeModel} {code : Module} {Γ : Context} {held : Option RuleId}
  {owner rule : RuleId} {index : ℕ} {v : Variant} {value : Expr} {values : List Expr}
  {fields : List Field} {fills : List Fill} {terms : List Term}

lemma terms_of_variant (hv : (m.variants rule)[index]? = some v) : m.terms rule index = v.terms := by
  rw [TypeModel.terms, hv]
  rfl

lemma Expr.Fit.asField (hvalue : value.HasType code Γ rule) (hrest : Expr.Fit code Γ values fields) :
    Expr.Fit code Γ (value.asField a owner rule :: values)
      (⟨rule, isBoxed a owner rule⟩ :: fields) := by
  unfold Expr.asField
  cases isBoxed a owner rule with
  | true => exact .boxed hvalue hrest
  | false => exact .bare hvalue hrest

lemma parameters_asField (value : Expr) :
    (value.asField a owner rule).parameters = value.parameters := by
  unfold Expr.asField
  split <;> simp [Expr.parameters]

lemma fieldExprs_rule {fill : Fill} {n k : ℕ} (h : fillExpr a m fill n = (some value, k)) :
    fieldExprs a m owner (fill :: fills) (.rule rule :: terms) n =
      (value.asField a owner rule :: (fieldExprs a m owner fills terms k).1,
        (fieldExprs a m owner fills terms k).2) := by
  rw [fieldExprs, h]

lemma fillExpr_fixed (a : Analysis) (rule : RuleId) (index : ℕ) (fills : List Fill) (n : ℕ) :
    fillExpr a m (.fixed rule index fills) n =
    (some (.variant rule index (fieldExprs a m rule fills (m.terms rule index) n).1),
      (fieldExprs a m rule fills (m.terms rule index) n).2) := by
  rw [fillExpr]

/-- Expressions that are given with the number of parameters used by them and before: they take one for
each argument, from the `n`th on, and fit the fields wherever the parameters are those arguments. -/
structure Expr.Render (code : Module) (held : Option RuleId) (arguments : List RuleId) (n : ℕ)
    (exprs : List Expr × ℕ) (fields : List Field) : Prop where
  count_eq : exprs.2 = n + arguments.length
  parameters_eq : Expr.parametersOfAll exprs.1 = List.range' n arguments.length
  fit : ∀ Γ : Context, (∀ rule ∈ held, Γ.previous = some rule) → arguments <+: Γ.parameters.drop n →
    Expr.Fit code Γ exprs.1 fields

/-- A value that uses no parameter stands before the others. -/
lemma Expr.Render.cons {arguments : List RuleId} {n : ℕ} {exprs : List Expr × ℕ}
    (h : Expr.Render code held arguments n exprs fields) (hparameters : value.parameters = [])
    (hvalue : ∀ Γ : Context, (∀ rule ∈ held, Γ.previous = some rule) → value.HasType code Γ rule) :
    Expr.Render code held arguments n (value.asField a owner rule :: exprs.1, exprs.2)
      (⟨rule, isBoxed a owner rule⟩ :: fields) where
  count_eq := h.count_eq
  parameters_eq := by
    rw [Expr.parametersOfAll, parameters_asField, hparameters, List.nil_append]
    exact h.parameters_eq
  fit Γ hheld harguments := .asField (hvalue Γ hheld) (h.fit Γ hheld harguments)

/-- A parameter stands before the others, which take the ones after it. -/
lemma Expr.Render.cons_parameter {arguments : List RuleId} {n : ℕ} {exprs : List Expr × ℕ}
    (h : Expr.Render code held arguments (n + 1) exprs fields) :
    Expr.Render code held (rule :: arguments) n
      ((Expr.parameter n).asField a owner rule :: exprs.1, exprs.2)
      (⟨rule, isBoxed a owner rule⟩ :: fields) where
  count_eq := by
    rw [h.count_eq, List.length_cons]
    omega
  parameters_eq := by
    rw [Expr.parametersOfAll, parameters_asField, Expr.parameters, h.parameters_eq, List.length_cons,
      List.range'_succ]
    rfl
  fit Γ hheld := by
    rintro ⟨after, hafter⟩
    have hhead := congrArg (·[0]?) hafter
    have htail := congrArg List.tail hafter
    simp only [List.getElem?_drop] at hhead
    rw [List.tail_drop] at htail
    exact .asField (.parameter hhead.symm) (h.fit Γ hheld ⟨after, htail⟩)

/-- The expressions for fills that supply the terms fit the fields for the terms. -/
theorem render_fieldExprs (h : Fill.Supply m held fills terms) (hcode : code.DeclaresModel a m)
    (owner : RuleId) (n : ℕ) :
    Expr.Render code held (fills.filterMap Fill.argument?) n (fieldExprs a m owner fills terms n)
      (fieldsOf a owner terms) := by
  induction h generalizing owner n with
  | nil => exact ⟨rfl, rfl, fun Γ _ _ => .nil⟩
  | @previous rule fills terms hrest ih =>
    rw [fieldExprs_rule rfl]
    exact (ih owner n).cons rfl fun Γ hheld => .previous (hheld rule rfl)
  | literal hrest ih => exact ih owner n
  | empty hrest ih => exact ih owner n
  | argument hrest ih =>
    rw [fieldExprs_rule rfl]
    exact (ih owner (n + 1)).cons_parameter
  | @fixed held rule index v inner fills terms hv hclosed hinner hrest ihinner ih =>
    -- What is fixed uses no parameter, so that counting goes on from where it was.
    have hinside := ihinner rule n
    rw [hclosed] at hinside
    have hfill := fillExpr_fixed (m := m) a rule index inner n
    rw [terms_of_variant hv, hinside.count_eq] at hfill
    rw [fieldExprs_rule hfill]
    refine (ih owner n).cons hinside.parameters_eq fun Γ _ => ?_
    exact .variant (hcode rule index v hv) (hinside.fit Γ (by simp) List.nil_prefix)

/-- The expression for a selection is a value of its rule, made of its arguments in order. -/
theorem makes_selectionExpr {s : Selection} (h : s.Supplies m held rule)
    (hcode : code.DeclaresModel a m) (name : List Char) :
    Method.Makes code held ⟨name, s.arguments, selectionExpr a m s⟩ rule := by
  obtain ⟨rfl, v, hv, hfills⟩ := h
  have hrender := render_fieldExprs hfills hcode s.rule 0
  rw [selectionExpr, terms_of_variant hv]
  refine ⟨⟨_, _, _, rfl, hcode s.rule s.variant v hv, hrender.fit _ (by simp) ?_⟩, ?_⟩
  · exact List.prefix_refl _
  · rw [Expr.parameters, hrender.parameters_eq, List.range_eq_range']
    rfl

end Code

end TypedGrammar
