import TypedGrammar.Proofs.DerivationTree
import TypedGrammar.Proofs.ErrorReport

/-!
# Closed grammars and what stands against them

`ClosureReport` says which errors of closure a grammar has, by the names of its rules and the places
of its references alone. The analysis reports exactly those, and a grammar without any is closed:
each of its references leads to one rule.
-/

namespace TypedGrammar.Grammar

variable {g : Grammar} {start : Option Name}

def Named (g : Grammar) (id : RuleId) (name : Name) : Prop :=
  ∃ r, g.rules[id]? = some r ∧ r.name = name

/-- A part of a grammar: its rule, its alternative of the rule, its place in the alternative. -/
abbrev Site := RuleId × Nat × Nat

/-- Source order of parts: by rule, then by alternative, then by place. -/
abbrev Site.Before : Site → Site → Prop :=
  Prod.Lex (· < ·) (Prod.Lex (· < ·) (· < ·))

/-- The part at the site refers to `name` and belongs to a rule named `owner`. -/
def RefersAt (g : Grammar) (site : Site) (owner name : Name) : Prop :=
  ∃ r a, g.rules[site.1]? = some r ∧ r.name = owner ∧ r.alternatives[site.2.1]? = some a ∧
    a[site.2.2]? = some (.reference name)

/-- The error of a part that refers to a name no rule has. -/
def UndefinedAt (g : Grammar) (site : Site) (error : SemanticError) : Prop :=
  ∃ owner name, g.RefersAt site owner name ∧ (∀ id, ¬ g.Named id name) ∧
    error = .undefinedReference owner name site.2.1 site.2.2

/-- The error of a rule whose name a rule before it has. -/
def DuplicateAt (g : Grammar) (id : RuleId) (error : SemanticError) : Prop :=
  ∃ name first, g.Named id name ∧ g.Named first name ∧ (∀ other, g.Named other name → first ≤ other) ∧
    first < id ∧ error = .duplicateRule name first id

/-- The errors of the rule to start from: one if it is given and does not exist. -/
def StartReport (g : Grammar) (start : Option Name) (errors : List SemanticError) : Prop :=
  (∃ name, start = some name ∧ (∀ id, ¬ g.Named id name) ∧ errors = [.unknownStart name]) ∨
    ((∀ name, start = some name → ∃ id, g.Named id name) ∧ errors = [])

/-- The errors of closure: of all parts, then of all rules, then of the start. -/
def ClosureReport (g : Grammar) (start : Option Name) (errors : List SemanticError) : Prop :=
  ∃ undefined duplicates unknown, errors = undefined ++ duplicates ++ unknown ∧
    Reports Site.Before g.UndefinedAt undefined ∧ Reports (· < ·) g.DuplicateAt duplicates ∧
      g.StartReport start unknown

/-! ### The index -/

lemma named_iff {id : RuleId} {name : Name} :
    g.Named id name ↔ (g.rules.map Rule.name)[id]? = some name := by
  simp [Named]

lemma Named.unique {id : RuleId} {name name' : Name} (h : g.Named id name) (h' : g.Named id name') :
    name = name' := by
  obtain ⟨r, hr, rfl⟩ := h
  obtain ⟨r', hr', rfl⟩ := h'
  cases hr.symm.trans hr'
  rfl

lemma find?_eq_some_iff {id : RuleId} {name : Name} :
    g.find? name = some id ↔ g.Named id name ∧ ∀ other, g.Named other name → id ≤ other := by
  rw [find?, List.findIdx?_eq_some_iff_getElem]
  constructor
  · rintro ⟨hlt, hname, hfirst⟩
    refine ⟨⟨_, List.getElem?_eq_getElem hlt, by simpa using hname⟩, ?_⟩
    rintro other ⟨r, hr, rfl⟩
    by_contra hother
    obtain ⟨hlt', rfl⟩ := List.getElem?_eq_some_iff.mp hr
    exact hfirst other (Nat.lt_of_not_le hother) (by simp)
  · rintro ⟨⟨r, hr, rfl⟩, hfirst⟩
    obtain ⟨hlt, rfl⟩ := List.getElem?_eq_some_iff.mp hr
    refine ⟨hlt, by simp, ?_⟩
    intro other hother hname
    have hnamed : g.Named other g.rules[id].name :=
      ⟨_, List.getElem?_eq_getElem (hother.trans hlt), by simpa using hname⟩
    exact absurd (hfirst other hnamed) (Nat.not_le_of_lt hother)

lemma find?_eq_none_iff {name : Name} : g.find? name = none ↔ ∀ id, ¬ g.Named id name := by
  rw [find?, List.findIdx?_eq_none_iff]
  constructor
  · rintro h id ⟨r, hr, rfl⟩
    simpa using h r (List.mem_of_getElem? hr)
  · intro h r hr
    obtain ⟨id, hid⟩ := List.mem_iff_getElem?.mp hr
    simpa using fun hname => h id ⟨r, hid, hname⟩

/-! ### The three kinds of errors -/

/-- The error of a part of the rule that refers to a name no rule has. -/
def UndefinedIn (g : Grammar) (r : Rule) (place : ℕ × ℕ) (error : SemanticError) : Prop :=
  ∃ a name, r.alternatives[place.1]? = some a ∧ a[place.2]? = some (.reference name) ∧
    (∀ id, ¬ g.Named id name) ∧ error = .undefinedReference r.name name place.1 place.2

lemma undefinedReference?_eq_some_iff {owner : Name} {part : Part} {alternative place : ℕ}
    {error : SemanticError} :
    undefinedReference? g.index owner alternative (part, place) = some error ↔
      ∃ name, part = .reference name ∧ (∀ id, ¬ g.Named id name) ∧
        error = .undefinedReference owner name alternative place := by
  cases part with
  | reference name =>
    rw [undefinedReference?, lookup_index]
    constructor
    · intro h
      split at h
      · rename_i hnone
        cases h
        exact ⟨name, rfl, find?_eq_none_iff.mp (Option.isNone_iff_eq_none.mp hnone), rfl⟩
      · cases h
    · rintro ⟨_, hname, hnone, rfl⟩
      cases hname
      rw [if_pos (Option.isNone_iff_eq_none.mpr (find?_eq_none_iff.mpr hnone))]
  | literal text => simp [undefinedReference?]
  | epsilon => simp [undefinedReference?]

lemma reports_undefinedReferencesOf (g : Grammar) (r : Rule) :
    Reports (Prod.Lex (· < ·) (· < ·)) (g.UndefinedIn r) (undefinedReferencesOf g.index r) := by
  have hparts := Reports.flatMap r.alternatives.zipIdx fun a _ =>
    Reports.filterMap (undefinedReference? g.index r.name a.2) a.1.zipIdx
  refine hparts.congr fun place e => ?_
  simp [UndefinedIn, undefinedReference?_eq_some_iff]

lemma reports_undefinedReferences (g : Grammar) :
    Reports Site.Before g.UndefinedAt g.undefinedReferences := by
  have hrules := Reports.flatMap g.rules fun r _ => g.reports_undefinedReferencesOf r
  refine hrules.congr fun site e => ?_
  constructor
  · rintro ⟨r, hr, a, name, ha, hname, hnone, rfl⟩
    exact ⟨r.name, name, ⟨r, a, hr, rfl, ha, hname⟩, hnone, rfl⟩
  · rintro ⟨_, name, ⟨r, a, hr, rfl, ha, hname⟩, hnone, rfl⟩
    exact ⟨r, hr, a, name, ha, hname, hnone, rfl⟩

/-! ### Rules whose name is taken -/

/-- The error of a rule whose name the index gives to a rule before it. -/
def duplicateError? (g : Grammar) (r : Rule × RuleId) : Option SemanticError :=
  match g.find? r.1.name with
  | some first => if first < r.2 then some (.duplicateRule r.1.name first r.2) else none
  | none => none

/-- When a rule is entered the index knows the rules before it, and no other rule of its name comes
first. -/
lemma duplicates_enter {before after : List Rule} {r : Rule} {s : Indexing}
    (hrules : g.rules = before ++ r :: after)
    (hindex : s.index.lookup r.name = before.findIdx? (·.name = r.name)) :
    (s.enter (r, before.length)).duplicates =
      s.duplicates ++ (g.duplicateError? (r, before.length)).toList := by
  have hfind : g.find? r.name =
      (before.findIdx? (·.name = r.name)).or (some before.length) := by
    simp [find?, hrules, List.findIdx?_append, List.findIdx?_cons]
  rw [Indexing.enter, duplicateError?, hfind, hindex]
  cases hfirst : before.findIdx? (·.name = r.name) with
  | none => simp
  | some first =>
    obtain ⟨hlt, _⟩ := List.findIdx?_eq_some_iff_getElem.mp hfirst
    simp [hlt]

lemma duplicates_foldl_enter (before rules : List Rule) (s : Indexing)
    (hrules : g.rules = before ++ rules)
    (hindex : ∀ name, s.index.lookup name = before.findIdx? (·.name = name)) :
    ((rules.zipIdx before.length).foldl .enter s).duplicates =
      s.duplicates ++ (rules.zipIdx before.length).filterMap g.duplicateError? := by
  induction rules generalizing before s with
  | nil => simp
  | cons r rules ih =>
    have hnext : ∀ name, (s.enter (r, before.length)).index.lookup name =
        (before ++ [r]).findIdx? (·.name = name) := by
      intro name
      rw [Indexing.lookup_enter, hindex, List.findIdx?_append]
      by_cases h : r.name = name <;> simp [h]
    have hrest := ih (before ++ [r]) (s.enter (r, before.length)) (by simp [hrules]) hnext
    rw [List.length_append, List.length_singleton] at hrest
    rw [List.zipIdx_cons, List.foldl_cons, hrest, duplicates_enter hrules (hindex r.name),
      List.append_assoc]
    congr 1
    cases h : g.duplicateError? (r, before.length) <;> simp [h]

lemma duplicateError?_eq_some_iff {r : Rule} {id : RuleId} {error : SemanticError} :
    g.duplicateError? (r, id) = some error ↔
      ∃ first, g.Named first r.name ∧ (∀ other, g.Named other r.name → first ≤ other) ∧ first < id ∧
        error = .duplicateRule r.name first id := by
  rw [duplicateError?]
  constructor
  · intro h
    split at h
    · rename_i first hfirst
      split at h
      · rename_i hlt
        cases h
        obtain ⟨hnamed, hleast⟩ := find?_eq_some_iff.mp hfirst
        exact ⟨first, hnamed, hleast, hlt, rfl⟩
      · cases h
    · cases h
  · rintro ⟨first, hnamed, hleast, hlt, rfl⟩
    rw [find?_eq_some_iff.mpr ⟨hnamed, hleast⟩]
    exact if_pos hlt

lemma reports_duplicates (g : Grammar) : Reports (· < ·) g.DuplicateAt g.duplicates := by
  have hpass : g.duplicates = g.rules.zipIdx.filterMap g.duplicateError? :=
    duplicates_foldl_enter [] g.rules ⟨[], []⟩ rfl (by simp)
  rw [hpass]
  refine (Reports.filterMap g.duplicateError? g.rules.zipIdx).congr fun id e => ?_
  simp only [List.getElem?_zipIdx, Option.map_eq_some_iff, Nat.zero_add]
  constructor
  · rintro ⟨_, ⟨r, hr, rfl⟩, he⟩
    obtain ⟨first, hfirst⟩ := duplicateError?_eq_some_iff.mp he
    exact ⟨r.name, first, ⟨r, hr, rfl⟩, hfirst⟩
  · rintro ⟨_, first, ⟨r, hr, rfl⟩, hfirst⟩
    exact ⟨_, ⟨r, hr, rfl⟩, duplicateError?_eq_some_iff.mpr ⟨first, hfirst⟩⟩

/-! ### The rule to start from -/

lemma startReport_startErrors (g : Grammar) (start : Option Name) :
    g.StartReport start (g.startErrors start) := by
  cases start with
  | none => exact .inr ⟨by simp, rfl⟩
  | some name =>
    rw [startErrors, lookup_index]
    cases hfind : g.find? name with
    | none => exact .inl ⟨name, rfl, find?_eq_none_iff.mp hfind, rfl⟩
    | some id =>
      refine .inr ⟨?_, rfl⟩
      rintro _ ⟨⟩
      exact ⟨id, (find?_eq_some_iff.mp hfind).1⟩

lemma StartReport.unique {errors errors' : List SemanticError} (h : g.StartReport start errors)
    (h' : g.StartReport start errors') : errors = errors' := by
  rcases h with ⟨name, rfl, hnone, rfl⟩ | ⟨hsome, rfl⟩
  · rcases h' with ⟨name', hname, _, rfl⟩ | ⟨hsome, rfl⟩
    · cases hname
      rfl
    · obtain ⟨id, hid⟩ := hsome name rfl
      exact absurd hid (hnone id)
  · rcases h' with ⟨name', hname, hnone, rfl⟩ | ⟨_, rfl⟩
    · obtain ⟨id, hid⟩ := hsome name' hname
      exact absurd hid (hnone id)
    · rfl

/-! ### All errors of closure -/

lemma closureReport_closureErrors (g : Grammar) (start : Option Name) :
    g.ClosureReport start (g.closureErrors start) :=
  ⟨_, _, _, rfl, g.reports_undefinedReferences, g.reports_duplicates, g.startReport_startErrors start⟩

lemma RefersAt.unique {site : Site} {owner owner' name name' : Name}
    (h : g.RefersAt site owner name) (h' : g.RefersAt site owner' name') :
    owner = owner' ∧ name = name' := by
  obtain ⟨r, a, hr, rfl, ha, hname⟩ := h
  obtain ⟨r', a', hr', rfl, ha', hname'⟩ := h'
  cases hr.symm.trans hr'
  cases ha.symm.trans ha'
  cases hname.symm.trans hname'
  exact ⟨rfl, rfl⟩

theorem ClosureReport.unique {errors errors' : List SemanticError}
    (h : g.ClosureReport start errors) (h' : g.ClosureReport start errors') : errors = errors' := by
  obtain ⟨undefined, duplicates, unknown, rfl, hundefined, hduplicates, hunknown⟩ := h
  obtain ⟨undefined', duplicates', unknown', rfl, hundefined', hduplicates', hunknown'⟩ := h'
  congr 1
  · congr 1
    · refine hundefined.unique ?_ hundefined'
      rintro site _ _ ⟨owner, name, hrefers, _, rfl⟩ ⟨owner', name', hrefers', _, rfl⟩
      obtain ⟨rfl, rfl⟩ := hrefers.unique hrefers'
      rfl
    · refine hduplicates.unique ?_ hduplicates'
      rintro id _ _ ⟨name, first, hnamed, hfirst, hleast, _, rfl⟩
        ⟨name', first', hnamed', hfirst', hleast', _, rfl⟩
      obtain rfl := hnamed.unique hnamed'
      rw [Nat.le_antisymm (hleast first' hfirst') (hleast' first hfirst)]
  · exact hunknown.unique hunknown'

lemma undefinedReferences_eq_nil_iff :
    g.undefinedReferences = [] ↔
      ∀ site owner name, g.RefersAt site owner name → ∃ id, g.Named id name := by
  rw [g.reports_undefinedReferences.eq_nil_iff]
  constructor
  · intro hnone site owner name hrefers
    by_contra hname
    exact hnone site _ ⟨owner, name, hrefers, not_exists.mp hname, rfl⟩
  · rintro hdefined site _ ⟨owner, name, hrefers, hnone, rfl⟩
    obtain ⟨id, hid⟩ := hdefined site owner name hrefers
    exact hnone id hid

lemma duplicates_eq_nil_iff :
    g.duplicates = [] ↔ ∀ id other name, g.Named id name → g.Named other name → id = other := by
  rw [g.reports_duplicates.eq_nil_iff]
  constructor
  · intro hnone
    -- The first rule of the name is the only one, since any other would be reported.
    have hfirst : ∀ id name, g.Named id name → g.find? name = some id := by
      intro id name hid
      cases hfind : g.find? name with
      | none => exact absurd hid (find?_eq_none_iff.mp hfind id)
      | some first =>
        obtain ⟨hnamed, hleast⟩ := find?_eq_some_iff.mp hfind
        by_contra hne
        have hlt : first < id := Nat.lt_of_le_of_ne (hleast id hid) fun h => hne (by rw [h])
        exact hnone id _ ⟨name, first, hid, hnamed, hleast, hlt, rfl⟩
    intro id other name hid hother
    exact Option.some.inj ((hfirst id name hid).symm.trans (hfirst other name hother))
  · rintro hone id _ ⟨name, first, hid, hfirst, _, hlt, rfl⟩
    exact absurd (hone first id name hfirst hid) (Nat.ne_of_lt hlt)

lemma startErrors_eq_nil_iff :
    g.startErrors start = [] ↔ ∀ name, start = some name → ∃ id, g.Named id name := by
  constructor
  · intro h
    rcases g.startReport_startErrors start with ⟨name, _, _, hone⟩ | ⟨hsome, _⟩
    · rw [h] at hone
      cases hone
    · exact hsome
  · intro hsome
    exact (g.startReport_startErrors start).unique (.inr ⟨hsome, rfl⟩)

/-- A grammar has no errors of closure when every reference names a rule, no two rules share a name
and the rule to start from exists. -/
theorem closureErrors_eq_nil_iff :
    g.closureErrors start = [] ↔
      (∀ site owner name, g.RefersAt site owner name → ∃ id, g.Named id name) ∧
        (∀ id other name, g.Named id name → g.Named other name → id = other) ∧
          ∀ name, start = some name → ∃ id, g.Named id name := by
  rw [closureErrors, List.append_eq_nil_iff, List.append_eq_nil_iff, undefinedReferences_eq_nil_iff,
    duplicates_eq_nil_iff, startErrors_eq_nil_iff, and_assoc]

/-! ### What the analysis reports -/

lemma analyze_of_closureErrors (h : g.closureErrors start ≠ []) :
    g.analyze start = .error ⟨g.closureErrors start⟩ :=
  if_pos h

lemma eq_unproductiveRule_of_mem {error : SemanticError} (h : error ∈ g.productivityErrors) :
    ∃ name, error = .unproductiveRule name := by
  obtain ⟨⟨productive, r⟩, _, hr⟩ := List.mem_filterMap.mp h
  cases productive with
  | true => cases hr
  | false =>
    cases hr
    exact ⟨r.name, rfl⟩

/-- In a grammar without errors of closure a name leads to its one rule. -/
lemma find?_eq_some_iff_of_closureErrors (h : g.closureErrors start = []) {id : RuleId}
    {name : Name} (hid : g.Named id name) :
    g.find? name = some id ∧ ∀ other, g.Named other name ↔ other = id := by
  obtain ⟨_, hone, _⟩ := closureErrors_eq_nil_iff.mp h
  have hunique : ∀ other, g.Named other name → other = id := fun other hother =>
    hone other id name hother hid
  refine ⟨find?_eq_some_iff.mpr ⟨hid, fun other hother => (hunique other hother).ge⟩, ?_⟩
  intro other
  constructor
  · exact hunique other
  · rintro rfl
    exact hid

/-- Errors of closure are reported all together and exactly. Where there are none, the analysis fails
for unproductive rules only, and if it does not fail, then every reference leads to the one rule of
its name, and the start is the named rule or the first. -/
theorem analyze_reports_closure (g : Grammar) (start : Option Name) :
    ∃ errors, (∀ report, g.ClosureReport start report ↔ report = errors) ∧
      (errors ≠ [] → g.analyze start = .error ⟨errors⟩) ∧
      (errors = [] →
        (∀ failure, g.analyze start = .error failure →
          ∀ error ∈ failure.errors, ∃ name, error = .unproductiveRule name) ∧
        ∀ a, g.analyze start = .ok a →
          (∀ site owner name, g.RefersAt site owner name →
            ∃ id, a.lookup name = some id ∧ ∀ other, g.Named other name ↔ other = id) ∧
          (∀ name, start = some name → ∀ other, g.Named other name ↔ other = a.start) ∧
          (start = none → a.start = 0)) := by
  refine ⟨g.closureErrors start, ?_, analyze_of_closureErrors, ?_⟩
  · intro report
    constructor
    · intro h
      exact h.unique (g.closureReport_closureErrors start)
    · rintro rfl
      exact g.closureReport_closureErrors start
  · intro hnil
    obtain ⟨hdefined, _, hstart⟩ := closureErrors_eq_nil_iff.mp hnil
    constructor
    · intro failure hfailure error herror
      unfold analyze at hfailure
      rw [if_neg (not_not.mpr hnil)] at hfailure
      split at hfailure
      · cases hfailure
        exact eq_unproductiveRule_of_mem herror
      · cases hfailure
    · intro a ha
      obtain ⟨rfl, _⟩ := analyze_eq_ok ha
      refine ⟨?_, ?_, ?_⟩
      · intro site owner name hrefers
        obtain ⟨id, hid⟩ := hdefined site owner name hrefers
        obtain ⟨hfind, hone⟩ := find?_eq_some_iff_of_closureErrors hnil hid
        exact ⟨id, (g.lookup_index name).trans hfind, hone⟩
      · rintro name rfl
        obtain ⟨id, hid⟩ := hstart name rfl
        obtain ⟨hfind, hone⟩ := find?_eq_some_iff_of_closureErrors hnil hid
        have hstartRule : (g.analysis (g.startRule (some name))).start = id := by
          simp [analysis, startRule, hfind]
        rw [hstartRule]
        exact hone
      · rintro rfl
        rfl

end TypedGrammar.Grammar
