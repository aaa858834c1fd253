import Mathlib
import TypedGrammar.Builder.Synthesis
import TypedGrammar.Proofs.RefinementHierarchy
import TypedGrammar.Proofs.SelectionValue
import TypedGrammar.Proofs.WrittenName

/-!
# Characters of generated names

What a grammar does not name itself is named after its rules and literals, in words that spell out
symbols, and with counters. All of that is ASCII apart from what the grammar contributes. So a property
that ASCII characters and those of the grammar have holds of every character in the name of a step.
-/

namespace TypedGrammar

/-- All characters of the name have the property. -/
def Name.Consists (P : Char → Prop) (name : Name) : Prop :=
  ∀ fragment ∈ name.fragments, ∀ c ∈ fragment.chars, P c

/-- The text that the part stands for by itself. -/
def Part.text : Part → List Char
  | .literal text => text.chars
  | .reference _ | .epsilon => []

/-- All characters in the rule names and the literals of the grammar have the property. -/
def Grammar.Consists (P : Char → Prop) (g : Grammar) : Prop :=
  ∀ r ∈ g.rules, r.name.Consists P ∧ ∀ a ∈ r.alternatives, ∀ part ∈ a, ∀ c ∈ part.text, P c

instance (P : Char → Prop) [DecidablePred P] (name : Name) : Decidable (name.Consists P) :=
  have (fragment : Line) : Decidable (∀ c ∈ fragment.chars, P c) := List.decidableBAll P _
  inferInstanceAs (Decidable (∀ fragment ∈ name.fragments, ∀ c ∈ fragment.chars, P c))

instance (P : Char → Prop) [DecidablePred P] (g : Grammar) : Decidable (g.Consists P) :=
  have (part : Part) : Decidable (∀ c ∈ part.text, P c) := List.decidableBAll P _
  inferInstanceAs (Decidable (∀ r ∈ g.rules, r.name.Consists P ∧
    ∀ a ∈ r.alternatives, ∀ part ∈ a, ∀ c ∈ part.text, P c))

namespace Name

/-! ### Words of a literal -/

lemma toNat_of_mem_toDigits {base n : Nat} (hbase : 1 < base) (hbase' : base ≤ 16) :
    ∀ c ∈ Nat.toDigits base n, c.toNat < 128 := by
  have hdigit : ∀ k < 16, k.digitChar.toNat < 128 := by decide
  induction n using Nat.strongRecOn with
  | ind n ih =>
    intro c hc
    rw [Nat.toDigits_eq_if hbase] at hc
    split at hc
    · rename_i hn
      rw [List.mem_singleton.mp hc]
      exact hdigit n (by omega)
    · rcases List.mem_append.mp hc with hc | hc
      · exact ih (n / base) (Nat.div_lt_self (by omega) hbase) c hc
      · rw [List.mem_singleton.mp hc]
        have hmod := Nat.mod_lt n (Nat.zero_lt_of_lt hbase)
        exact hdigit _ (by omega)

lemma toNat_of_mem_symbolWords {c d : Char} {words : List String} {word : String}
    (h : symbolWords c = some words) (hword : word ∈ words) (hd : d ∈ word.toList) :
    d.toNat < 128 := by
  have hall : words.all (fun word => word.toList.all fun d => d.toNat < 128) = true := by
    unfold symbolWords at h
    split at h <;> cases h <;> decide
  exact of_decide_eq_true (List.all_eq_true.mp (List.all_eq_true.mp hall word hword) d hd)

lemma toNat_of_mem_characterWords {c d : Char} {word : List Char} (hword : word ∈ characterWords c)
    (hd : d ∈ word) : d.toNat < 128 := by
  rw [characterWords] at hword
  split at hword
  · rename_i words hwords
    obtain ⟨symbol, hsymbol, rfl⟩ := List.mem_map.mp hword
    exact toNat_of_mem_symbolWords hwords hsymbol hd
  · rw [List.mem_singleton.mp hword, codePointWord] at hd
    rcases List.mem_cons.mp hd with rfl | hd
    · decide
    · rw [List.leftpad] at hd
      rcases List.mem_append.mp hd with hd | hd
      · rw [List.eq_of_mem_replicate hd]
        decide
      · exact toNat_of_mem_toDigits (by decide) (by decide) d hd

/-- The words of a literal are spelled with its characters and with ASCII. -/
theorem mem_or_ascii_of_literalWords {text word : List Char} {c : Char}
    (hword : word ∈ literalWords text) (hc : c ∈ word) : c ∈ text ∨ c.toNat < 128 := by
  rw [literalWords] at hword
  split at hword
  · rw [List.mem_singleton.mp hword] at hc
    have hempty : "empty".toList.all (fun c => c.toNat < 128) = true := by decide
    exact .inr (of_decide_eq_true (List.all_eq_true.mp hempty c hc))
  · obtain ⟨piece, hpiece, hword⟩ := List.mem_flatMap.mp hword
    rw [pieceWords] at hword
    split at hword
    · rw [List.mem_singleton.mp hword] at hc
      exact .inl (mem_of_mem_splitBy hpiece hc)
    · obtain ⟨d, _, hword⟩ := List.mem_flatMap.mp hword
      exact .inr (toNat_of_mem_characterWords hword hc)

variable {P : Char → Prop} {fallback : Name}

lemma consists_ofFragmentsD {fragments : List Line}
    (h : ∀ fragment ∈ fragments, ∀ c ∈ fragment.chars, P c) (hfallback : fallback.Consists P) :
    (ofFragmentsD fragments fallback).Consists P := by
  rw [ofFragmentsD]
  split
  · exact hfallback
  · exact h

lemma consists_join {names : List Name} (h : ∀ name ∈ names, name.Consists P)
    (hfallback : fallback.Consists P) : (join names fallback).Consists P := by
  refine consists_ofFragmentsD (fun fragment hfragment => ?_) hfallback
  obtain ⟨name, hname, hfragment⟩ := List.mem_flatMap.mp hfragment
  exact h name hname fragment hfragment

section Ascii

variable (hascii : ∀ c : Char, c.toNat < 128 → P c)
include hascii

lemma consists_ofLiteral {text : List Char} (h : ∀ c ∈ text, P c) (hfallback : fallback.Consists P) :
    (ofLiteral text fallback).Consists P := by
  refine consists_ofFragmentsD (fun fragment hfragment c hc => ?_) hfallback
  obtain ⟨word, hword, hline⟩ := List.mem_filterMap.mp hfragment
  cases hline' : Line.ofText? word with
  | error e =>
    rw [hline'] at hline
    cases hline
  | ok line =>
    rw [hline'] at hline
    cases hline
    rw [Line.chars_of_ofText? hline'] at hc
    rcases mem_or_ascii_of_literalWords hword hc with hc | hc
    · exact h c hc
    · exact hascii c hc

lemma consists_fresh (names : NameSet) {name : Name} (h : name.Consists P) :
    (names.fresh name).Consists P := by
  rw [NameSet.fresh]
  split
  · intro fragment hfragment c hc
    rcases List.mem_append.mp hfragment with hfragment | hfragment
    · exact h fragment hfragment c hc
    · rw [List.mem_singleton.mp hfragment] at hc
      exact hascii c (toNat_of_mem_toDigits (by decide) (by decide) c hc)
  · exact h

end Ascii

end Name

/-! ### Names of variants -/

section Ascii

variable {P : Char → Prop} {ruleName : RuleId → Name} {fallback : Name}
  (hascii : ∀ c : Char, c.toNat < 128 → P c) (hnames : ∀ id, (ruleName id).Consists P)
include hascii hnames

lemma Term.consists_name {term : Term} (hterm : ∀ c ∈ term.text, P c)
    (hfallback : fallback.Consists P) : (term.name ruleName fallback).Consists P := by
  cases term with
  | rule id => exact hnames id
  | literal text => exact Name.consists_ofLiteral hascii hterm hfallback
  | empty => exact Name.consists_ofLiteral hascii hterm hfallback

lemma Term.consists_variantName {terms : List Term} (hterms : ∀ term ∈ terms, ∀ c ∈ term.text, P c)
    (hfallback : fallback.Consists P) : (variantName ruleName fallback terms).Consists P := by
  unfold variantName
  split
  · exact hnames _
  · split
    · refine Name.consists_ofLiteral hascii (fun c hc => ?_) hfallback
      obtain ⟨term, hterm, hc⟩ := List.mem_flatMap.mp hc
      exact hterms term hterm c hc
    · refine Name.consists_join (fun name hname => ?_) hfallback
      obtain ⟨term, hterm, rfl⟩ := List.mem_map.mp hname
      exact Term.consists_name hascii hnames (hterms term hterm) hfallback

lemma consists_payloadName {payload : List Term} {value : Option (Nat × Name)}
    (hpayload : ∀ term ∈ payload, ∀ c ∈ term.text, P c)
    (hvalue : ∀ entry ∈ value, entry.2.Consists P) (hfallback : fallback.Consists P) :
    (payloadName ruleName fallback value payload).Consists P := by
  refine Name.consists_join (fun name hname => ?_) hfallback
  obtain ⟨⟨term, i⟩, hterm, rfl⟩ := List.mem_map.mp hname
  have hterm := Term.consists_name hascii hnames (hpayload term (List.fst_mem_of_mem_zipIdx hterm))
    hfallback
  dsimp only
  split
  · split
    · exact hvalue _ rfl
    · exact hterm
  · exact hterm

end Ascii

/-! ### Names in the type model -/

/-- The variant's name and its literals consist of characters with the property. -/
def Variant.Consists (P : Char → Prop) (v : Variant) : Prop :=
  v.name.Consists P ∧ ∀ term ∈ v.terms, ∀ c ∈ term.text, P c

namespace Grammar

section Ascii

variable {P : Char → Prop} {g : Grammar} (hascii : ∀ c : Char, c.toNat < 128 → P c)
  (hg : g.Consists P)

include hg in
lemma Consists.ruleName (id : RuleId) : (g.rule id).name.Consists P := by
  refine (hg (g.rule id) ?_).1
  rw [rule]
  cases hr : g.rules[id]? with
  | none => exact List.head_mem g.rules_ne_nil
  | some r => exact List.mem_of_getElem? hr

include hg in
lemma Consists.text_terms {r : Rule} (hr : r ∈ g.rules) {a : Alternative} (ha : a ∈ r.alternatives) :
    ∀ term ∈ g.terms a, ∀ c ∈ term.text, P c := by
  intro term hterm c hc
  obtain ⟨part, hpart, hpart'⟩ := List.mem_filterMap.mp hterm
  cases part with
  | literal text =>
    cases hpart'
    exact (hg r hr).2 a ha (.literal text) hpart c hc
  | reference name =>
    obtain ⟨id, _, rfl⟩ := Option.map_eq_some_iff.mp hpart'
    cases hc
  | epsilon =>
    cases hpart'
    cases hc

include hascii hg

lemma Consists.variants {r : Rule} (hr : r ∈ g.rules) (owner : RuleId) {taken : NameSet}
    {before : List (RuleId × RuleId)} {alternatives : List Alternative}
    (ha : alternatives ⊆ r.alternatives) :
    ∀ v ∈ (g.variants owner r.name taken before alternatives).1, v.Consists P := by
  induction alternatives generalizing taken before with
  | nil => exact List.forall_mem_nil _
  | cons a alternatives ih =>
    obtain ⟨hfirst, hrest⟩ := List.cons_subset.mp ha
    have hterms := hg.text_terms hr hfirst
    have hname := Term.consists_variantName hascii hg.ruleName hterms (hg r hr).1
    exact List.forall_mem_cons.mpr ⟨⟨Name.consists_fresh hascii taken hname, hterms⟩, ih hrest⟩

lemma Consists.capabilities {before : List (RuleId × RuleId)} {rules : List (Rule × RuleId)}
    (hrules : ∀ entry ∈ rules, entry.1 ∈ g.rules) :
    ∀ c ∈ (g.capabilities before rules).1, ∀ v ∈ c.variants, v.Consists P := by
  induction rules generalizing before with
  | nil => exact List.forall_mem_nil _
  | cons entry rules ih =>
    obtain ⟨hfirst, hrest⟩ := List.forall_mem_cons.mp hrules
    exact List.forall_mem_cons.mpr
      ⟨hg.variants hascii hfirst entry.2 (List.Subset.refl _), ih hrest⟩

lemma Consists.typeModel {id : RuleId} : ∀ v ∈ g.typeModel.variants id, v.Consists P := by
  intro v hv
  obtain ⟨c, hc, _, hv⟩ := mem_variants_typeModel_iff.mp hv
  exact hg.capabilities hascii (fun entry hentry => List.fst_mem_of_mem_zipIdx hentry) c hc v hv

end Ascii

end Grammar

/-! ### Names of steps -/

lemma Variant.name_of_enumerate? {inner : RuleId → Option (List NamedSelection)} {rule : RuleId}
    {index : Nat} {v : Variant} {values : List NamedSelection}
    (h : v.enumerate? inner rule index = some values) {value : NamedSelection}
    (hvalue : value ∈ values) :
    value.name = v.name ∨ ∃ sub others, inner sub = some others ∧
      ∃ other ∈ others, value.name = other.name := by
  unfold Variant.enumerate? at h
  split at h
  · obtain ⟨others, hothers, rfl⟩ := Option.map_eq_some_iff.mp h
    obtain ⟨other, hother, rfl⟩ := List.mem_map.mp hvalue
    exact .inr ⟨_, others, hothers, other, hother, rfl⟩
  · split at h
    · cases h
      rw [List.mem_singleton.mp hvalue]
      exact .inl rfl
    · cases h

/-- A value is called what the variant is called that it comes down to. -/
lemma exists_variant_of_value {a : Analysis} {m : TypeModel} {depth : Nat} {rule : RuleId}
    {values : List NamedSelection} (h : enumerateWithin a m depth rule = some values)
    {value : NamedSelection} (hvalue : value ∈ values) :
    ∃ id, ∃ v ∈ m.variants id, value.name = v.name := by
  induction depth generalizing rule values value with
  | zero => cases h
  | succ depth ih =>
    obtain ⟨index, v, list, hv, henumerate, hvalue⟩ := exists_variant_of_mem_values h hvalue
    rcases Variant.name_of_enumerate? henumerate hvalue with
      hname | ⟨sub, others, hothers, other, hother, hname⟩
    · exact ⟨rule, v, List.mem_of_getElem? hv, hname⟩
    · rw [hname]
      exact ih hothers hother

lemma consists_claimNames {P : Char → Prop} (hascii : ∀ c : Char, c.toNat < 128 → P c)
    {steps : List Step} (hsteps : ∀ s ∈ steps, s.name.Consists P) (initial growing : NameSet) :
    ∀ s ∈ claimNames initial growing steps, s.name.Consists P := by
  induction steps generalizing initial growing with
  | nil => exact List.forall_mem_nil _
  | cons step steps ih =>
    obtain ⟨hstep, hrest⟩ := List.forall_mem_cons.mp hsteps
    rw [claimNames]
    split
    · exact List.forall_mem_cons.mpr ⟨Name.consists_fresh hascii initial hstep, ih hrest _ _⟩
    · exact List.forall_mem_cons.mpr ⟨Name.consists_fresh hascii growing hstep, ih hrest _ _⟩

namespace Grammar

variable {P : Char → Prop} {g : Grammar}

lemma Consists.variantSteps (hascii : ∀ c : Char, c.toNat < 128 → P c) (hg : g.Consists P)
    {start rule : RuleId} {kind : StepKind} {v : Variant} (hv : v.Consists P) {index : Nat} :
    ∀ s ∈ variantSteps (g.analysis start) g.typeModel rule kind v index, s.name.Consists P := by
  have hpayload : ∀ term ∈ v.terms.drop kind.held, ∀ c ∈ term.text, P c := fun term hterm =>
    hv.2 term (List.mem_of_mem_drop hterm)
  have hopen : (openStep (g.analysis start) rule kind v index).name.Consists P := by
    cases kind with
    | growth => exact consists_payloadName hascii hg.ruleName hpayload (by rintro _ ⟨⟩) hv.1
    | choice => exact hv.1
    | base => exact hv.1
  unfold TypedGrammar.variantSteps
  split
  · split
    · rename_i values hvalues
      intro s hs
      obtain ⟨value, hvalue, rfl⟩ := List.mem_map.mp hs
      obtain ⟨id, w, hw, hname⟩ := exists_variant_of_value hvalues hvalue
      refine consists_payloadName hascii hg.ruleName hpayload ?_ hv.1
      rintro _ ⟨⟩
      rw [hname]
      exact (hg.typeModel hascii w hw).1
    · simpa using hopen
  · simpa using hopen

/-- Every character in the name of a step is one of the grammar's or ASCII. -/
theorem Consists.machineOf (hascii : ∀ c : Char, c.toNat < 128 → P c) (hg : g.Consists P)
    (start rule : RuleId) :
    ∀ s ∈ (machineOf (g.analysis start) g.typeModel rule).steps, s.name.Consists P := by
  refine consists_claimNames hascii (fun s hs => ?_) _ _
  obtain ⟨⟨⟨v, c⟩, index⟩, hmem, hs⟩ := List.mem_flatMap.mp hs
  have hv := (List.of_mem_zip (List.fst_mem_of_mem_zipIdx hmem)).1
  exact hg.variantSteps hascii (hg.typeModel hascii v hv) s hs

end Grammar

end TypedGrammar
