import Mathlib.Data.List.Basic
import Mathlib.Data.List.Induction
import Mathlib.Tactic.Lemma
import TypedGrammar.Request.Attribute

/-!
# Requested options

Attributes are read in order, and reading stops at the first with a fault: one that is not given a
string, or that is given again. What the attributes ask for together is judged once all of them are
read. `Acceptable` says when they ask for something, `Asks` what that is, and `Refusal` what is
reported otherwise.
-/

namespace TypedGrammar.Request

variable {ε : Type} {attributes others before : List (Attribute ε)} {a : Attribute ε} {key : Key}
  {value : String} {options : Options} {e : RequestError ε}

/-! ### Attributes -/

lemma Key.ofPath?_eq_some_iff {path : String} : Key.ofPath? path = some key ↔ path = key.path := by
  constructor
  · intro h
    simpa [eq_comm] using List.find?_some h
  · rintro rfl
    cases key <;> rfl

@[simp] lemma Key.path_inj {other : Key} : key.path = other.path ↔ key = other := by
  cases key <;> cases other <;> decide

/-- One of the attributes that ask for code. -/
def Attribute.Recognised (a : Attribute ε) : Prop :=
  ∃ key : Key, a.path = key.path

instance (a : Attribute ε) : Decidable a.Recognised :=
  decidable_of_iff (Key.ofPath? a.path).isSome (by
    simp only [Option.isSome_iff_exists, Key.ofPath?_eq_some_iff, Attribute.Recognised])

/-- Whether an attribute names a grammar source. -/
def Attribute.OfSource (a : Attribute ε) : Prop :=
  a.path = Key.inline.path ∨ a.path = Key.file.path

instance (a : Attribute ε) : Decidable a.OfSource :=
  inferInstanceAs (Decidable (_ ∨ _))

lemma Attribute.OfSource.recognised (h : a.OfSource) : a.Recognised := by
  rcases h with h | h
  · exact ⟨.inline, h⟩
  · exact ⟨.file, h⟩

/-- The string that an attribute gives for the key. -/
def Attribute.text? (key : Key) (a : Attribute ε) : Option String :=
  match a.value with
  | .text value => if a.path = key.path then some value else none
  | _ => none

lemma Attribute.text?_text {other : Key} :
    (⟨other.path, .text value⟩ : Attribute ε).text? key = if other = key then some value else none := by
  simp [Attribute.text?]

lemma Attribute.text?_eq_none (h : a.path ≠ key.path) : a.text? key = none := by
  obtain ⟨path, _ | _ | _⟩ := a <;> simp_all [Attribute.text?]

lemma Attribute.text?_eq_some_iff : a.text? key = some value ↔ a = ⟨key.path, .text value⟩ := by
  obtain ⟨path, _ | _ | _⟩ := a <;> simp [Attribute.text?, and_comm]

/-- The attribute that names the grammar source. -/
def Source.attribute : Source → Attribute ε
  | .inline text => ⟨Key.inline.path, .text text⟩
  | .file path => ⟨Key.file.path, .text path⟩

lemma Source.ofSource_attribute (source : Source) : (source.attribute : Attribute ε).OfSource := by
  cases source with
  | inline text => exact .inl rfl
  | file path => exact .inr rfl

/-- The grammar source that an attribute names. -/
def Attribute.source? (a : Attribute ε) : Option Source :=
  ((a.text? .inline).map .inline).or ((a.text? .file).map .file)

lemma Attribute.source?_attribute (source : Source) :
    (source.attribute : Attribute ε).source? = some source := by
  cases source <;> simp [Source.attribute, Attribute.source?, Attribute.text?]

lemma Attribute.source?_eq_some_iff {source : Source} :
    a.source? = some source ↔ a = source.attribute := by
  constructor
  · intro h
    rw [Attribute.source?, Option.or_eq_some_iff, Option.map_eq_some_iff] at h
    rcases h with ⟨text, htext, rfl⟩ | ⟨_, h⟩
    · exact Attribute.text?_eq_some_iff.mp htext
    · obtain ⟨path, hpath, rfl⟩ := Option.map_eq_some_iff.mp h
      exact Attribute.text?_eq_some_iff.mp hpath
  · rintro rfl
    exact Attribute.source?_attribute source

/-! ### Faults -/

/-- What is wrong with an attribute that is read after others. -/
inductive Fault (before : List (Attribute ε)) : Attribute ε → RequestError ε → Prop where
  | malformed (key : Key) (error : ε) :
      Fault before ⟨key.path, .malformed error⟩ (.attribute error)
  | notAString (key : Key) : Fault before ⟨key.path, .other⟩ (.notAString key.path)
  | again {key : Key} {other : Attribute ε} (value : String) (hkey : key ∈ [Key.start, Key.dialect])
      (hother : other ∈ before) (hpath : other.path = key.path) :
      Fault before ⟨key.path, .text value⟩ (.duplicateAttribute key.path)

/-- No attribute has a fault when it is read. -/
def Faultless (attributes : List (Attribute ε)) : Prop :=
  ∀ before a after, attributes = before ++ a :: after → ∀ e, ¬ Fault before a e

/-- The attributes are read up to one that has this fault. -/
def FirstFault (attributes : List (Attribute ε)) (e : RequestError ε) : Prop :=
  ∃ before a after, attributes = before ++ a :: after ∧ Faultless before ∧ Fault before a e

/-- Every attribute of ours is given a string. -/
def Textual (attributes : List (Attribute ε)) : Prop :=
  ∀ a ∈ attributes, a.Recognised → ∃ value, a.value = .text value

lemma Textual.exists_text (h : Textual attributes) (ha : a ∈ attributes) (hpath : a.path = key.path) :
    ∃ value, a = ⟨key.path, .text value⟩ := by
  obtain ⟨value, hvalue⟩ := h a ha ⟨key, hpath⟩
  exact ⟨value, by rw [← hpath, ← hvalue]⟩

lemma faultless_nil : Faultless ([] : List (Attribute ε)) := by
  intro before a after h
  simp at h

lemma faultless_concat : Faultless (before ++ [a]) ↔ Faultless before ∧ ∀ e, ¬ Fault before a e := by
  constructor
  · intro h
    refine ⟨fun earlier b after hbefore => ?_, h before a [] rfl⟩
    exact h earlier b (after ++ [a]) (by rw [hbefore, List.append_assoc, List.cons_append])
  · rintro ⟨hbefore, ha⟩ earlier b after h
    rcases List.eq_nil_or_concat' after with rfl | ⟨after, last, rfl⟩
    · obtain ⟨rfl, hb⟩ := List.append_inj' h rfl
      cases hb
      exact ha
    · rw [← List.cons_append, ← List.append_assoc] at h
      exact hbefore earlier b after (List.append_inj' h rfl).1

lemma faultless_or_firstFault (attributes : List (Attribute ε)) :
    Faultless attributes ∨ ∃ e, FirstFault attributes e := by
  induction attributes using List.reverseRecOn with
  | nil => exact .inl faultless_nil
  | append_singleton before a ih =>
    rcases ih with hbefore | ⟨e, earlier, b, after, rfl, hearlier, hb⟩
    · by_cases ha : ∃ e, Fault before a e
      · obtain ⟨e, he⟩ := ha
        exact .inr ⟨e, before, a, [], rfl, hbefore, he⟩
      · exact .inl (faultless_concat.mpr ⟨hbefore, not_exists.mp ha⟩)
    · exact .inr ⟨e, earlier, b, after ++ [a], by simp, hearlier, hb⟩

/-- An attribute without a fault is none of ours, or is given a string for the first time where it
can be given once. -/
lemma forall_not_fault_iff : (∀ e, ¬ Fault before a e) ↔
    (a.Recognised → ∃ value, a.value = .text value) ∧
      ∀ key ∈ [Key.start, Key.dialect], a.path = key.path → ∀ other ∈ before,
        other.path ≠ key.path := by
  obtain ⟨path, content⟩ := a
  constructor
  · intro h
    have htext : ∀ key : Key, path = key.path → ∃ value, content = .text value := by
      rintro key rfl
      cases content with
      | text value => exact ⟨value, rfl⟩
      | other => exact absurd (.notAString key) (h _)
      | malformed error => exact absurd (.malformed key error) (h _)
    refine ⟨fun ⟨key, hkey⟩ => htext key hkey, fun key hkey hpath other hother hsame => ?_⟩
    obtain ⟨value, rfl⟩ := htext key hpath
    obtain rfl : path = key.path := hpath
    exact h _ (.again value hkey hother hsame)
  · rintro ⟨htext, honce⟩ e he
    cases he with
    | malformed key error =>
      obtain ⟨value, hvalue⟩ := htext ⟨key, rfl⟩
      cases hvalue
    | notAString key =>
      obtain ⟨value, hvalue⟩ := htext ⟨key, rfl⟩
      cases hvalue
    | again value hkey hother hpath => exact honce _ hkey rfl _ hother hpath

/-- Attributes have no fault if ours are given strings and no start rule or dialect is given
again. -/
theorem faultless_iff : Faultless attributes ↔ Textual attributes ∧
    ∀ key ∈ [Key.start, Key.dialect], attributes.countP (·.path = key.path) ≤ 1 := by
  -- The last attribute is judged by all the others, so the induction takes it off.
  induction attributes using List.reverseRecOn with
  | nil => simp [faultless_nil, Textual]
  | append_singleton before a ih =>
    have htextual : Textual (before ++ [a]) ↔
        Textual before ∧ (a.Recognised → ∃ value, a.value = .text value) := by
      simp only [Textual, List.forall_mem_append, List.forall_mem_singleton]
    have honce (key : Key) : (before ++ [a]).countP (·.path = key.path) ≤ 1 ↔
        before.countP (·.path = key.path) ≤ 1 ∧
          (a.path = key.path → ∀ other ∈ before, other.path ≠ key.path) := by
      rw [List.countP_append, List.countP_singleton]
      by_cases ha : a.path = key.path
      · have hzero := List.countP_eq_zero (p := fun other => decide (other.path = key.path)) (l := before)
        simp only [decide_eq_true_eq] at hzero
        simp only [ha, decide_true, if_true, forall_const]
        rw [← hzero]
        omega
      · simp [ha]
    rw [faultless_concat, ih, forall_not_fault_iff, htextual]
    simp only [honce]
    constructor
    · rintro ⟨⟨hbefore, hcount⟩, ha, hfirst⟩
      exact ⟨⟨hbefore, ha⟩, fun key hkey => ⟨hcount key hkey, hfirst key hkey⟩⟩
    · rintro ⟨⟨hbefore, ha⟩, hcount⟩
      exact ⟨⟨hbefore, fun key hkey => (hcount key hkey).1⟩, ha, fun key hkey => (hcount key hkey).2⟩

/-! ### What is read -/

/-- The strings that are given for the key. -/
def given (key : Key) (attributes : List (Attribute ε)) : List String :=
  attributes.filterMap (·.text? key)

/-- What attributes without faults set. -/
def collect (attributes : List (Attribute ε)) : Settings where
  sources := attributes.filterMap (·.source?)
  start := (given .start attributes).head?
  dialect := (given .dialect attributes).head?

lemma mem_given : value ∈ given key attributes ↔ ⟨key.path, .text value⟩ ∈ attributes := by
  simp only [given, List.mem_filterMap, Attribute.text?_eq_some_iff, exists_eq_right]

lemma length_given (h : Textual attributes) :
    (given key attributes).length = attributes.countP (·.path = key.path) := by
  rw [given, List.length_filterMap_eq_countP]
  refine List.countP_congr fun a ha => ?_
  rw [Option.isSome_iff_exists, decide_eq_true_eq]
  constructor
  · rintro ⟨value, hvalue⟩
    rw [Attribute.text?_eq_some_iff.mp hvalue]
  · intro hpath
    obtain ⟨value, hvalue⟩ := h.exists_text ha hpath
    exact ⟨value, Attribute.text?_eq_some_iff.mpr hvalue⟩

lemma length_sources (h : Textual attributes) :
    (collect attributes).sources.length = attributes.countP (·.OfSource) := by
  rw [collect, List.length_filterMap_eq_countP]
  refine List.countP_congr fun a ha => ?_
  rw [Option.isSome_iff_exists, decide_eq_true_eq]
  constructor
  · rintro ⟨source, hsource⟩
    rw [Attribute.source?_eq_some_iff.mp hsource]
    exact source.ofSource_attribute
  · rintro (hpath | hpath)
    · obtain ⟨text, htext⟩ := h.exists_text ha hpath
      exact ⟨.inline text, Attribute.source?_eq_some_iff.mpr htext⟩
    · obtain ⟨path, hfile⟩ := h.exists_text ha hpath
      exact ⟨.file path, Attribute.source?_eq_some_iff.mpr hfile⟩

lemma given_eq_nil (h : ∀ a ∈ attributes, a.path ≠ key.path) : given key attributes = [] := by
  refine List.eq_nil_iff_forall_not_mem.mpr fun value hvalue => ?_
  exact h _ (mem_given.mp hvalue) rfl

lemma collect_concat : collect (before ++ [a]) =
    ⟨(collect before).sources ++ a.source?.toList, (collect before).start.or (a.text? .start),
      (collect before).dialect.or (a.text? .dialect)⟩ := by
  have hgiven (key : Key) : (given key (before ++ [a])).head? =
      (given key before).head?.or (a.text? key) := by
    rw [given, List.filterMap_append, List.head?_append]
    cases h : a.text? key <;> simp [given, h]
  rw [collect, hgiven, hgiven, List.filterMap_append]
  cases h : a.source? <;> simp [collect, h]

/-- An attribute without a fault is added to what the others set. -/
lemma add_collect (ha : ∀ e, ¬ Fault before a e) :
    (collect before).add a = .ok (collect (before ++ [a])) := by
  obtain ⟨htext, honce⟩ := forall_not_fault_iff.mp ha
  obtain ⟨path, content⟩ := a
  rw [collect_concat, Settings.add]
  cases hkey : Key.ofPath? path with
  | none =>
    have hnone (key : Key) : Attribute.text? key ⟨path, content⟩ = none := by
      refine Attribute.text?_eq_none fun h => ?_
      rw [Key.ofPath?_eq_some_iff.mpr h] at hkey
      cases hkey
    simp [Attribute.source?, hnone]
  | some key =>
    obtain rfl := Key.ofPath?_eq_some_iff.mp hkey
    obtain ⟨value, rfl⟩ := htext ⟨key, rfl⟩
    cases key with
    | inline => simp [Settings.set, Attribute.source?, Attribute.text?_text]
    | file => simp [Settings.set, Attribute.source?, Attribute.text?_text]
    | start =>
      have hunset : (collect before).start = none := by
        rw [collect, given_eq_nil (honce .start (by decide) rfl), List.head?_nil]
      simp [Settings.set, Settings.setOnce, Except.map, Attribute.source?, Attribute.text?_text, hunset]
    | dialect =>
      have hunset : (collect before).dialect = none := by
        rw [collect, given_eq_nil (honce .dialect (by decide) rfl), List.head?_nil]
      simp [Settings.set, Settings.setOnce, Except.map, Attribute.source?, Attribute.text?_text, hunset]

/-- A fault is reported when the attribute is read. -/
lemma add_eq_error (hbefore : Faultless before) (ha : Fault before a e) :
    (collect before).add a = .error e := by
  cases ha with
  | malformed key error => rw [Settings.add, Key.ofPath?_eq_some_iff.mpr rfl]
  | notAString key => rw [Settings.add, Key.ofPath?_eq_some_iff.mpr rfl]
  | @again key other value hkey hother hpath =>
    obtain ⟨first, rfl⟩ := (faultless_iff.mp hbefore).1.exists_text hother hpath
    have hset : (given key before).head?.isSome := by
      rw [List.isSome_head?]
      exact List.ne_nil_of_mem (mem_given.mpr hother)
    rw [Settings.add, Key.ofPath?_eq_some_iff.mpr rfl]
    simp only [List.mem_cons, List.not_mem_nil, or_false] at hkey
    rcases hkey with rfl | rfl
    · simp [Settings.set, Settings.setOnce, collect, hset, Except.map]
    · simp [Settings.set, Settings.setOnce, collect, hset, Except.map]

lemma foldlM_add (h : Faultless attributes) :
    attributes.foldlM Settings.add .empty = .ok (collect attributes) := by
  induction attributes using List.reverseRecOn with
  | nil => rfl
  | append_singleton before a ih =>
    obtain ⟨hbefore, ha⟩ := faultless_concat.mp h
    rw [List.foldlM_append, ih hbefore]
    exact (bind_pure _).trans (add_collect ha)

lemma ofAttributes?_of_firstFault (h : FirstFault attributes e) :
    Options.ofAttributes? attributes = .error e := by
  obtain ⟨before, a, after, rfl, hbefore, ha⟩ := h
  have hfold : (before ++ a :: after).foldlM Settings.add .empty = .error e := by
    rw [List.foldlM_append, foldlM_add hbefore]
    change ((a :: after).foldlM Settings.add (collect before)) = _
    rw [List.foldlM_cons, add_eq_error hbefore ha]
    rfl
  rw [Options.ofAttributes?, hfold]
  rfl

lemma ofAttributes?_of_faultless (h : Faultless attributes) :
    Options.ofAttributes? attributes = (collect attributes).finish := by
  rw [Options.ofAttributes?, foldlM_add h]
  rfl

/-! ### What is asked for -/

/-- What the attributes of a request must be. -/
structure Acceptable (attributes : List (Attribute ε)) : Prop where
  textual : Textual attributes
  oneSource : attributes.countP (·.OfSource) = 1
  startOnce : attributes.countP (·.path = Key.start.path) ≤ 1
  dialectOnce : attributes.countP (·.path = Key.dialect.path) ≤ 1
  known : ∀ name, ⟨Key.dialect.path, .text name⟩ ∈ attributes → (Dialect.named? name).isSome

/-- The options that attributes ask for. -/
structure Asks (attributes : List (Attribute ε)) (options : Options) : Prop where
  source : options.source.attribute ∈ attributes
  start : ∀ name, options.start = some name ↔ ⟨Key.start.path, .text name⟩ ∈ attributes
  dialect : (∃ name, ⟨Key.dialect.path, .text name⟩ ∈ attributes ∧
      Dialect.named? name = some options.dialect) ∨
    (∀ a ∈ attributes, a.path ≠ Key.dialect.path) ∧ options.dialect = .bnf

/-- What is reported of attributes that ask for nothing. A fault comes before what is wrong with the
attributes together, and the number of sources before the name of the dialect. -/
inductive Refusal (attributes : List (Attribute ε)) : RequestError ε → Prop where
  | fault {e : RequestError ε} (h : FirstFault attributes e) : Refusal attributes e
  | missingSource (h : Faultless attributes) (hsource : attributes.countP (·.OfSource) = 0) :
      Refusal attributes .missingSource
  | multipleSources (h : Faultless attributes) (hsource : 1 < attributes.countP (·.OfSource)) :
      Refusal attributes .multipleSources
  | unknownDialect {name : String} (h : Faultless attributes)
      (hsource : attributes.countP (·.OfSource) = 1)
      (hname : ⟨Key.dialect.path, .text name⟩ ∈ attributes) (hunknown : Dialect.named? name = none) :
      Refusal attributes (.unknownDialect name)

lemma Acceptable.faultless (h : Acceptable attributes) : Faultless attributes := by
  refine faultless_iff.mpr ⟨h.textual, ?_⟩
  simp only [List.forall_mem_cons, List.not_mem_nil, IsEmpty.forall_iff, implies_true, and_true]
  exact ⟨h.startOnce, h.dialectOnce⟩

lemma acceptable_or_refusal (attributes : List (Attribute ε)) :
    Acceptable attributes ∨ ∃ e, Refusal attributes e := by
  rcases faultless_or_firstFault attributes with h | ⟨e, h⟩
  · obtain ⟨htextual, honce⟩ := faultless_iff.mp h
    rcases Nat.lt_trichotomy (attributes.countP (·.OfSource)) 1 with hsource | hsource | hsource
    · exact .inr ⟨_, .missingSource h (Nat.lt_one_iff.mp hsource)⟩
    · by_cases hknown : ∃ name, ⟨Key.dialect.path, .text name⟩ ∈ attributes ∧ Dialect.named? name = none
      · obtain ⟨name, hname, hunknown⟩ := hknown
        exact .inr ⟨_, .unknownDialect h hsource hname hunknown⟩
      · refine .inl ⟨htextual, hsource, honce _ (by decide), honce _ (by decide), fun name hname => ?_⟩
        exact Option.isSome_iff_ne_none.mpr fun hunknown => hknown ⟨name, hname, hunknown⟩
    · exact .inr ⟨_, .multipleSources h hsource⟩
  · exact .inr ⟨e, .fault h⟩

/-- What can be given once is set to the string that is given. -/
lemma head?_given_eq_some_iff (h : Faultless attributes) (hkey : key ∈ [Key.start, Key.dialect]) :
    (given key attributes).head? = some value ↔ ⟨key.path, .text value⟩ ∈ attributes := by
  obtain ⟨htextual, honce⟩ := faultless_iff.mp h
  have hlength := honce key hkey
  rw [← length_given htextual] at hlength
  rw [← mem_given]
  match given key attributes, hlength with
  | [], _ => simp
  | [first], _ => simp [eq_comm]

lemma ofAttributes?_of_refusal (h : Refusal attributes e) :
    Options.ofAttributes? attributes = .error e := by
  cases h with
  | fault h => exact ofAttributes?_of_firstFault h
  | missingSource h hsource =>
    rw [← length_sources (faultless_iff.mp h).1, List.length_eq_zero_iff] at hsource
    rw [ofAttributes?_of_faultless h, Settings.finish, hsource]
  | multipleSources h hsource =>
    rw [← length_sources (faultless_iff.mp h).1] at hsource
    rw [ofAttributes?_of_faultless h, Settings.finish]
    match (collect attributes).sources, hsource with
    | _ :: _ :: _, _ => rfl
  | unknownDialect h hsource hname hunknown =>
    rw [← length_sources (faultless_iff.mp h).1, List.length_eq_one_iff] at hsource
    obtain ⟨source, hsource⟩ := hsource
    have hdialect : (collect attributes).dialect = some _ :=
      (head?_given_eq_some_iff h (by decide)).mpr hname
    rw [ofAttributes?_of_faultless h, Settings.finish, hsource, hdialect]
    simp only [Settings.dialectNamed, hunknown]
    rfl

lemma Acceptable.exists_asks (h : Acceptable attributes) :
    ∃ options, Options.ofAttributes? attributes = .ok options ∧ Asks attributes options := by
  have hsource := h.oneSource
  rw [← length_sources h.textual, List.length_eq_one_iff] at hsource
  obtain ⟨source, hsource⟩ := hsource
  have hgiven : source.attribute ∈ attributes := by
    have hmem : source ∈ (collect attributes).sources := by rw [hsource, List.mem_singleton]
    obtain ⟨a, ha, hsource⟩ := List.mem_filterMap.mp hmem
    rwa [← Attribute.source?_eq_some_iff.mp hsource]
  have hstart (name : String) : (collect attributes).start = some name ↔
      ⟨Key.start.path, .text name⟩ ∈ attributes := head?_given_eq_some_iff h.faultless (by decide)
  have hdialect (name : String) : (collect attributes).dialect = some name ↔
      ⟨Key.dialect.path, .text name⟩ ∈ attributes := head?_given_eq_some_iff h.faultless (by decide)
  rw [ofAttributes?_of_faultless h.faultless, Settings.finish, hsource]
  cases hname : (collect attributes).dialect with
  | none =>
    refine ⟨_, rfl, hgiven, hstart, .inr ⟨fun a ha hpath => ?_, rfl⟩⟩
    obtain ⟨name, rfl⟩ := h.textual.exists_text ha hpath
    exact nomatch hname.symm.trans ((hdialect name).mpr ha)
  | some name =>
    have hmem := (hdialect name).mp hname
    obtain ⟨d, hd⟩ := Option.isSome_iff_exists.mp (h.known name hmem)
    refine ⟨⟨source, (collect attributes).start, d⟩, ?_, hgiven, hstart, .inl ⟨name, hmem, hd⟩⟩
    simp only [Settings.dialectNamed, hd]
    rfl

lemma eq_of_countP_le_one {b : Attribute ε} {p : Attribute ε → Bool} (h : attributes.countP p ≤ 1)
    (ha : a ∈ attributes) (hpa : p a) (hb : b ∈ attributes) (hpb : p b) : a = b := by
  have ha := List.mem_filter.mpr ⟨ha, hpa⟩
  have hb := List.mem_filter.mpr ⟨hb, hpb⟩
  rw [List.countP_eq_length_filter] at h
  match attributes.filter p, h, ha, hb with
  | [_], _, ha, hb => exact (List.mem_singleton.mp ha).trans (List.mem_singleton.mp hb).symm

/-- Attributes of a request ask for one thing. -/
lemma Asks.unique {options' : Options} (h : Acceptable attributes) (ho : Asks attributes options)
    (ho' : Asks attributes options') : options = options' := by
  have hsource : options.source = options'.source := by
    have hsame := eq_of_countP_le_one (Nat.le_of_eq h.oneSource) ho.source
      (decide_eq_true options.source.ofSource_attribute) ho'.source
      (decide_eq_true options'.source.ofSource_attribute)
    have hread := congrArg Attribute.source? hsame
    rwa [Attribute.source?_attribute, Attribute.source?_attribute, Option.some_inj] at hread
  have hstart : options.start = options'.start :=
    Option.ext fun name => (ho.start name).trans (ho'.start name).symm
  have hdialect : options.dialect = options'.dialect := by
    rcases ho.dialect with ⟨name, hname, hd⟩ | ⟨hnone, hd⟩ <;>
      rcases ho'.dialect with ⟨name', hname', hd'⟩ | ⟨hnone', hd'⟩
    · have hsame := eq_of_countP_le_one h.dialectOnce hname (by simp) hname' (by simp)
      obtain rfl : name = name' := by simpa using hsame
      exact Option.some.inj (hd.symm.trans hd')
    · exact absurd rfl (hnone' _ hname)
    · exact absurd rfl (hnone _ hname')
    · exact hd.trans hd'.symm
  obtain ⟨_, _, _⟩ := options
  obtain ⟨_, _, _⟩ := options'
  cases hsource
  cases hstart
  cases hdialect
  rfl

/-! ### In another order, among other attributes -/

section Perm

variable (h : (others.filter (·.Recognised)).Perm (attributes.filter (·.Recognised)))

include h

lemma mem_iff_of_perm (ha : a.Recognised) : a ∈ others ↔ a ∈ attributes := by
  have hmem := h.mem_iff (a := a)
  simpa [List.mem_filter, ha] using hmem

lemma countP_of_perm {p : Attribute ε → Bool} (hp : ∀ a, p a → a.Recognised) :
    others.countP p = attributes.countP p := by
  have hrecognised (l : List (Attribute ε)) : (l.filter (·.Recognised)).countP p = l.countP p := by
    rw [List.countP_filter]
    exact List.countP_congr fun a _ => by simpa using hp a
  rw [← hrecognised others, h.countP_eq, hrecognised]

lemma Acceptable.of_perm (hacceptable : Acceptable attributes) : Acceptable others where
  textual a ha hkey := hacceptable.textual a ((mem_iff_of_perm h hkey).mp ha) hkey
  oneSource := by
    rw [countP_of_perm h fun a ha => (of_decide_eq_true ha).recognised]
    exact hacceptable.oneSource
  startOnce := by
    rw [countP_of_perm h fun a ha => ⟨.start, of_decide_eq_true ha⟩]
    exact hacceptable.startOnce
  dialectOnce := by
    rw [countP_of_perm h fun a ha => ⟨.dialect, of_decide_eq_true ha⟩]
    exact hacceptable.dialectOnce
  known name hname := hacceptable.known name ((mem_iff_of_perm h ⟨.dialect, rfl⟩).mp hname)

lemma Asks.of_perm (ho : Asks attributes options) : Asks others options where
  source := (mem_iff_of_perm h options.source.ofSource_attribute.recognised).mpr ho.source
  start name := (ho.start name).trans (mem_iff_of_perm h ⟨.start, rfl⟩).symm
  dialect := by
    rcases ho.dialect with ⟨name, hname, hd⟩ | ⟨hnone, hd⟩
    · exact .inl ⟨name, (mem_iff_of_perm h ⟨.dialect, rfl⟩).mpr hname, hd⟩
    · refine .inr ⟨fun a ha hpath => hnone a ?_ hpath, hd⟩
      exact (mem_iff_of_perm h ⟨.dialect, hpath⟩).mp ha

end Perm

lemma ofAttributes?_eq_ok_iff :
    Options.ofAttributes? attributes = .ok options ↔ Acceptable attributes ∧ Asks attributes options := by
  constructor
  · intro h
    rcases acceptable_or_refusal attributes with hacceptable | ⟨e, he⟩
    · obtain ⟨options', hok, ho⟩ := hacceptable.exists_asks
      cases h.symm.trans hok
      exact ⟨hacceptable, ho⟩
    · cases h.symm.trans (ofAttributes?_of_refusal he)
  · rintro ⟨hacceptable, ho⟩
    obtain ⟨options', hok, ho'⟩ := hacceptable.exists_asks
    rw [hok, ho.unique hacceptable ho']

/-- Options are read from attributes exactly if those of ours are given strings, one of them names a
grammar source, at most one a start rule and at most one a dialect, which is known. The options are
the ones asked for, in whatever order the attributes stand and whatever others stand among them. Any
other attributes are refused, for the first fault if there is one. -/
theorem ofAttributes?_reads (attributes : List (Attribute ε)) :
    ((∃ options, Options.ofAttributes? attributes = .ok options) ↔ Acceptable attributes) ∧
      (∀ options, Options.ofAttributes? attributes = .ok options → Asks attributes options ∧
        ∀ others : List (Attribute ε),
          (others.filter (·.Recognised)).Perm (attributes.filter (·.Recognised)) →
            Options.ofAttributes? others = .ok options) ∧
      ∀ e, Options.ofAttributes? attributes = .error e ↔ Refusal attributes e := by
  refine ⟨⟨fun ⟨options, h⟩ => (ofAttributes?_eq_ok_iff.mp h).1, fun h => ?_⟩, fun options h => ?_,
    fun e => ⟨fun h => ?_, ofAttributes?_of_refusal⟩⟩
  · obtain ⟨options, hok, _⟩ := h.exists_asks
    exact ⟨options, hok⟩
  · obtain ⟨hacceptable, ho⟩ := ofAttributes?_eq_ok_iff.mp h
    refine ⟨ho, fun others hperm => ?_⟩
    exact ofAttributes?_eq_ok_iff.mpr ⟨hacceptable.of_perm hperm, ho.of_perm hperm⟩
  · rcases acceptable_or_refusal attributes with hacceptable | ⟨e', he'⟩
    · obtain ⟨options, hok, _⟩ := hacceptable.exists_asks
      cases h.symm.trans hok
    · cases h.symm.trans (ofAttributes?_of_refusal he')
      exact he'

example : Options.ofAttributes? [⟨"doc", .other⟩, ⟨"bnf_start", .text "expr"⟩,
      ⟨"bnf_file", .text "grammar.ebnf"⟩] =
    (.ok ⟨.file "grammar.ebnf", some "expr", .bnf⟩ : Except RequestError Options) := rfl

-- The start rule is given again before it is known that there is no source and no such dialect.
example : Options.ofAttributes? [⟨"bnf_notation", .text "abnf"⟩, ⟨"bnf_start", .text "a"⟩,
      ⟨"bnf_start", .text "b"⟩] =
    (.error (.duplicateAttribute "bnf_start") : Except RequestError Options) := rfl

end TypedGrammar.Request
