import TypedGrammar.Code.Generation
import TypedGrammar.Proofs.FreshName
import TypedGrammar.Proofs.RefinementHierarchy

/-!
# Generated names

Every name in generated code is an identifier, and the names of one namespace differ from one another.
What is put behind a name to keep it apart, or to call a builder after its type, holds a character that no
keyword holds, so that the name does not become one.
-/

namespace TypedGrammar.Code

/-- The text is an ASCII letter or an underscore and more of these and of digits. -/
structure IsWord (text : List Char) : Prop where
  head : ∃ first ∈ text.head?, first.isAlpha = true ∨ first = '_'
  chars : ∀ c ∈ text, c.isAlphanum = true ∨ c = '_'

/-- The text is a word that can be an identifier. -/
structure IsIdentifier (text : List Char) : Prop extends IsWord text where
  ne_underscore : text ≠ ['_']
  ne_keyword : ∀ keyword ∈ keywords, text ≠ keyword.toList

/-- The names can be declared in one namespace: they are identifiers, and no two of them are the same. -/
structure Apart (names : List (List Char)) : Prop where
  nodup : names.Nodup
  isIdentifier : ∀ name ∈ names, IsIdentifier name

def StateMethod.name : StateMethod → List Char
  | .step method _ => method.name
  | .build _ => "build".toList

/-- The methods of each state have names apart, and none but the one that builds is called `build`. The
constructors have names apart. -/
def BuilderItem.NamesApart : BuilderItem → Prop
  | .machine _ _ states => ∀ state ∈ states, Apart (state.methods.map StateMethod.name) ∧
      ∀ method target, .step method target ∈ state.methods → method.name ≠ "build".toList
  | .constructors _ functions => Apart (functions.map Method.name)

variable {text suffix base : List Char} {texts : List (List Char)} {scope : Scope}

/-! ### Identifiers -/

lemma isReserved_eq_false_iff :
    isReserved text = false ↔ text ≠ ['_'] ∧ ∀ keyword ∈ keywords, text ≠ keyword.toList := by
  rw [isReserved, Bool.or_eq_false_iff, List.any_eq_false]
  simp only [decide_eq_false_iff_not, decide_eq_true_eq, ne_eq, @eq_comm _ text (String.toList _)]

lemma IsWord.ne_nil (h : IsWord text) : text ≠ [] := by
  obtain ⟨first, hfirst, _⟩ := h.head
  rintro rfl
  cases hfirst

lemma isIdentifierChar_iff {c : Char} : isIdentifierChar c = true ↔ c.isAlphanum = true ∨ c = '_' := by
  simp [isIdentifierChar]

lemma IsWord.append (h : IsWord text) (hsuffix : suffix.all isIdentifierChar = true) :
    IsWord (text ++ suffix) := by
  obtain ⟨first, hfirst, hhead⟩ := h.head
  refine ⟨⟨first, ?_, hhead⟩, fun c hc => ?_⟩
  · rw [List.head?_append_of_ne_nil _ h.ne_nil]
    exact hfirst
  · rcases List.mem_append.mp hc with hc | hc
    · exact h.chars c hc
    · exact isIdentifierChar_iff.mp (List.all_eq_true.mp hsuffix c hc)

/-- What no keyword holds makes no keyword of a word. -/
lemma IsWord.isIdentifier_append (h : IsWord text)
    (hsuffix : suffix.all isIdentifierChar = true)
    (hfree : ∃ c ∈ suffix, ∀ keyword ∈ keywords, c ∉ keyword.toList) :
    IsIdentifier (text ++ suffix) := by
  obtain ⟨c, hc, hfree⟩ := hfree
  refine ⟨h.append hsuffix, fun heq => ?_, fun keyword hkeyword heq => ?_⟩
  · have htext := List.length_pos_iff.mpr h.ne_nil
    have hlength := congrArg List.length heq
    have hpos := List.length_pos_of_mem hc
    rw [List.length_append, List.length_singleton] at hlength
    omega
  · exact hfree keyword hkeyword (heq ▸ List.mem_append_right text hc)

/-- The characters that keep words behind a name from making keywords of it. -/
lemma not_mem_keyword {c : Char} (hc : c ∈ ['_', 'B', 'G']) :
    ∀ keyword ∈ keywords, c ∉ keyword.toList := by
  have hall : (['_', 'B', 'G'].all fun c => keywords.all fun keyword =>
      !keyword.toList.contains c) = true := by decide +kernel
  intro keyword hkeyword
  simpa using List.all_eq_true.mp (List.all_eq_true.mp hall c hc) keyword hkeyword

lemma isWord_withSafeStart (h : ∀ c ∈ text, c.isAlphanum = true ∨ c = '_') :
    IsWord (withSafeStart text) := by
  unfold withSafeStart
  split
  · exact ⟨⟨'_', rfl, .inr rfl⟩, by simp⟩
  · rename_i c text
    split
    · exact ⟨⟨'_', rfl, .inr rfl⟩, List.forall_mem_cons.mpr ⟨.inr rfl, h⟩⟩
    · rename_i hdigit
      refine ⟨⟨c, rfl, ?_⟩, h⟩
      simpa [Char.isAlphanum, hdigit] using h c List.mem_cons_self

lemma isIdentifier_withSafeEnd (h : IsWord text) : IsIdentifier (withSafeEnd text) := by
  unfold withSafeEnd
  split
  · exact h.isIdentifier_append (by decide) ⟨'_', by simp, not_mem_keyword (by simp)⟩
  · rename_i hreserved
    obtain ⟨hunderscore, hkeyword⟩ := isReserved_eq_false_iff.mp (by simpa using hreserved)
    exact ⟨h, hunderscore, hkeyword⟩

theorem isIdentifier_identifier (text : List Char) : IsIdentifier (identifier text) := by
  apply isIdentifier_withSafeEnd
  apply isWord_withSafeStart
  intro c hc
  obtain ⟨d, _, rfl⟩ := List.mem_map.mp hc
  split
  · rename_i hchar
    exact isIdentifierChar_iff.mp hchar
  · exact .inr rfl

lemma isIdentifier_of_identifier_eq (h : identifier text = text) : IsIdentifier text :=
  h ▸ isIdentifier_identifier text

lemma isIdentifier_build : IsIdentifier "build".toList :=
  isIdentifier_of_identifier_eq (by decide +kernel)

lemma isIdentifier_builders : IsIdentifier "builders".toList :=
  isIdentifier_of_identifier_eq (by decide +kernel)

lemma isIdentifier_ready : IsIdentifier "Ready".toList :=
  isIdentifier_of_identifier_eq (by decide +kernel)

/-! ### Scopes -/

lemma Apart.cons {name : List Char} {names : List (List Char)} (h : Apart names)
    (hname : IsIdentifier name) (hnew : name ∉ names) : Apart (name :: names) :=
  ⟨List.nodup_cons.mpr ⟨hnew, h.nodup⟩, List.forall_mem_cons.mpr ⟨hname, h.isIdentifier⟩⟩

lemma Apart.tail {name : List Char} {names : List (List Char)} (h : Apart (name :: names)) :
    Apart names :=
  ⟨(List.nodup_cons.mp h.nodup).2, (List.forall_mem_cons.mp h.isIdentifier).2⟩

namespace Scope

lemma isIdentifier_numbered (h : IsWord base) (n : ℕ) : IsIdentifier (numbered base n) := by
  have hdigits : (Nat.toDigits 10 n).all isIdentifierChar = true := by
    rw [List.all_eq_true]
    intro c hc
    have hdigit := Nat.isDigit_of_mem_toDigits (b := 10) (by decide) (by decide) hc
    simp [isIdentifierChar, Char.isAlphanum, hdigit]
  rw [numbered, List.append_assoc]
  apply h.isIdentifier_append
  · rw [List.all_append, hdigits]
    decide
  · exact ⟨'_', by simp, not_mem_keyword (by simp)⟩

lemma numbered_injective (base : List Char) : Function.Injective (numbered base) := by
  intro a b h
  simp only [numbered, List.append_cancel_left_eq] at h
  exact Text.toDigits_injective h

lemma fresh_not_mem (scope : Scope) (text : List Char) : scope.fresh text ∉ scope.taken := by
  rw [fresh]
  split
  · exact (Text.leastFree_spec (numbered_injective _) 2 scope.taken).2.1
  · rename_i h
    simpa using h

lemma isIdentifier_fresh (scope : Scope) (text : List Char) : IsIdentifier (scope.fresh text) := by
  have hbase := isIdentifier_identifier text
  rw [fresh]
  split
  · exact isIdentifier_numbered hbase.toIsWord _
  · exact hbase

lemma length_claimAll (scope : Scope) (texts : List (List Char)) :
    (scope.claimAll texts).length = texts.length := by
  induction texts generalizing scope with
  | nil => rfl
  | cons text texts ih => rw [claimAll, List.length_cons, ih, List.length_cons]

lemma not_mem_of_mem_claimAll {name : List Char} (h : name ∈ scope.claimAll texts) :
    name ∉ scope.taken := by
  induction texts generalizing scope with
  | nil => cases h
  | cons text texts ih =>
    rcases List.mem_cons.mp h with rfl | h
    · exact fresh_not_mem scope text
    · exact fun hname => ih h (List.mem_cons_of_mem _ hname)

/-- Claiming keeps the names apart, however many there are and whatever they are made of. -/
theorem apart_claimAll (scope : Scope) (texts : List (List Char)) :
    Apart (scope.claimAll texts) := by
  induction texts generalizing scope with
  | nil => exact ⟨List.nodup_nil, by simp [claimAll]⟩
  | cons text texts ih =>
    rw [claimAll]
    refine (ih _).cons (isIdentifier_fresh scope text) fun hmem => ?_
    exact not_mem_of_mem_claimAll hmem List.mem_cons_self

lemma apart_cons_claimAll {name : List Char} (hname : IsIdentifier name) (texts : List (List Char)) :
    Apart (name :: claimAll ⟨[name]⟩ texts) := by
  refine (apart_claimAll ⟨[name]⟩ texts).cons hname fun hmem => ?_
  exact not_mem_of_mem_claimAll hmem List.mem_cons_self

/-- The first name is a lone underscore, which is made an identifier, and the others get counters. -/
example : claimAll ⟨["builders".toList]⟩
      ["é".toList, "ü".toList, "___2".toList, "type".toList, "type_".toList, "builders".toList] =
    ["__".toList, "___2".toList, "___2_2".toList, "type_".toList, "type__2".toList,
      "builders_2".toList] := by
  decide +kernel

end Scope

/-! ### Types and their builders -/

/-- What a builder is called after its type tells it apart from the builders of other types, from what is
growing and from what is ready. -/
lemma Apart.builders {types : List (List Char)} (h : Apart types) :
    Apart ("Ready".toList ::
      (types.map (· ++ "Builder".toList) ++ types.map (· ++ "Growing".toList))) where
  nodup := by
    have hinjective (suffix : List Char) : Function.Injective fun type => type ++ suffix :=
      fun _ _ heq => List.append_cancel_right heq
    refine List.nodup_cons.mpr ⟨fun hready => ?_, List.nodup_append.mpr
      ⟨h.nodup.map (hinjective _), h.nodup.map (hinjective _), fun x hx y hy heq => ?_⟩⟩
    · rcases List.mem_append.mp hready with hready | hready
      · obtain ⟨type, _, htype⟩ := List.mem_map.mp hready
        have hsuffix : "Builder".toList <:+ "Ready".toList := ⟨type, htype⟩
        exact absurd hsuffix (by decide +kernel)
      · obtain ⟨type, _, htype⟩ := List.mem_map.mp hready
        have hsuffix : "Growing".toList <:+ "Ready".toList := ⟨type, htype⟩
        exact absurd hsuffix (by decide +kernel)
    · obtain ⟨type, _, rfl⟩ := List.mem_map.mp hx
      obtain ⟨type', _, rfl⟩ := List.mem_map.mp hy
      have hsame := List.append_inj_right' heq (by decide +kernel)
      exact absurd hsame (by decide +kernel)
  isIdentifier := by
    refine List.forall_mem_cons.mpr ⟨isIdentifier_ready, fun name hname => ?_⟩
    rcases List.mem_append.mp hname with hname | hname
    · obtain ⟨type, htype, rfl⟩ := List.mem_map.mp hname
      exact (h.isIdentifier type htype).isIdentifier_append (by decide +kernel)
        ⟨'B', by decide +kernel, not_mem_keyword (by simp)⟩
    · obtain ⟨type, htype, rfl⟩ := List.mem_map.mp hname
      exact (h.isIdentifier type htype).isIdentifier_append (by decide +kernel)
        ⟨'G', by decide +kernel, not_mem_keyword (by simp)⟩

namespace Naming

lemma length_types (g : Grammar) : (ofModel g.typeModel).types.length = g.size := by
  have hrules := congrArg List.length g.map_rule_capabilities
  rw [List.length_map, List.length_range] at hrules
  rw [ofModel, Scope.length_claimAll, List.length_map, hrules]

/-- The types are named in the order of their rules. -/
lemma map_type_range {naming : Naming} {size : ℕ} (h : naming.types.length = size) :
    (List.range size).map naming.type = naming.types := by
  apply List.ext_getElem
  · rw [List.length_map, List.length_range, h]
  · intro rule hrule hrule'
    simp [type, hrule']

end Naming

/-! ### Methods -/

lemma Apart.perm {names names' : List (List Char)} (h : Apart names) (hperm : names.Perm names') :
    Apart names' :=
  ⟨hperm.nodup_iff.mp h.nodup, fun name hname => h.isIdentifier name (hperm.mem_iff.mpr hname)⟩

/-- The names that are claimed for steps that leave the state. -/
def stepNames (machine : Machine) (state : BuilderState) : List (List Char) :=
  Scope.claimAll ⟨["build".toList]⟩ ((machine.stepsFrom state).map (·.2.name.snakeCase))

variable (a : Analysis) (m : TypeModel) (machine : Machine) (state : BuilderState)

lemma apart_stepNames : Apart ("build".toList :: stepNames machine state) :=
  Scope.apart_cons_claimAll isIdentifier_build _

lemma map_name_stateItem : (stateItem a m machine state).methods.map StateMethod.name =
    stepNames machine state ++ if state = machine.ready then ["build".toList] else [] := by
  rw [stateItem, List.map_append, List.map_map]
  congr 1
  · have hnames : stepNames machine state = Scope.claimAll ⟨["build".toList]⟩
        (((machine.stepsFrom state).map (·.2)).map (·.name.snakeCase)) := by
      rw [stepNames, List.map_map]
      rfl
    rw [← hnames]
    exact List.map_snd_zip (by simp [stepNames, Scope.length_claimAll])
  · split <;> rfl

lemma apart_stateItem : Apart ((stateItem a m machine state).methods.map StateMethod.name) := by
  rw [map_name_stateItem]
  split
  · exact (apart_stepNames machine state).perm (List.perm_append_singleton _ _).symm
  · rw [List.append_nil]
    exact (apart_stepNames machine state).tail

lemma name_mem_stepNames {method : Method} {target : BuilderState}
    (h : .step method target ∈ (stateItem a m machine state).methods) :
    method.name ∈ stepNames machine state := by
  rcases List.mem_append.mp h with h | h
  · obtain ⟨⟨step, name⟩, hentry, heq⟩ := List.mem_map.mp h
    cases heq
    have hname := (List.of_mem_zip hentry).2
    rwa [List.map_map] at hname
  · split at h
    · cases List.mem_singleton.mp h
    · cases h

lemma namesApart_builderItem (protocol : Protocol) : (builderItem a m protocol).NamesApart := by
  cases protocol with
  | incremental machine =>
    intro item hitem
    obtain ⟨state, _, rfl⟩ := List.mem_map.mp (List.mem_of_mem_filter hitem)
    refine ⟨apart_stateItem a m machine state, fun method target hmethod hbuild => ?_⟩
    have hmem := name_mem_stepNames a m machine state hmethod
    rw [hbuild] at hmem
    exact (List.nodup_cons.mp (apart_stepNames machine state).nodup).1 hmem
  | composition contract =>
    have hnames := Scope.apart_claimAll ⟨[]⟩ (contract.constructors.map (·.name.snakeCase))
    rw [builderItem, contractItem, BuilderItem.NamesApart, List.map_map]
    refine (List.map_snd_zip ?_).symm ▸ hnames
    simp [Scope.length_claimAll]

/-- The names of generated code are identifiers, and those of one namespace are apart: the types, from one
another and from the module of the builders; the variants of each type; the types of builders; the methods
of each state of a builder; and the constructors of each type. -/
theorem generate_namesApart (name : List Char) (a : Analysis) :
    let m := a.grammar.typeModel
    let naming := Naming.ofModel m
    let code := generate name (.ofAnalysis a)
    (naming.types.length = a.grammar.size ∧ Apart ("builders".toList :: naming.types)) ∧
    (naming.variants.map List.length = m.capabilities.map (·.variants.length) ∧
      ∀ names ∈ naming.variants, Apart names) ∧
    Apart ("Ready".toList :: (a.ruleIds.map naming.builder ++ a.ruleIds.map naming.growing)) ∧
    code.builders.length = a.grammar.size ∧ ∀ item ∈ code.builders, item.NamesApart := by
  intro m naming code
  have htypes : Apart ("builders".toList :: naming.types) :=
    Scope.apart_cons_claimAll isIdentifier_builders _
  have hlength : naming.types.length = a.grammar.size := Naming.length_types a.grammar
  have hbuilders : a.ruleIds.map naming.builder = naming.types.map (· ++ "Builder".toList) := by
    rw [← Naming.map_type_range hlength, List.map_map]
    rfl
  have hgrowing : a.ruleIds.map naming.growing = naming.types.map (· ++ "Growing".toList) := by
    rw [← Naming.map_type_range hlength, List.map_map]
    rfl
  refine ⟨⟨hlength, htypes⟩, ⟨?_, ?_⟩, ?_, ?_, ?_⟩
  · simp [naming, Naming.ofModel, Scope.length_claimAll, m]
  · intro names hnames
    obtain ⟨c, _, rfl⟩ := List.mem_map.mp hnames
    exact Scope.apart_claimAll _ _
  · rw [hbuilders, hgrowing]
    exact htypes.tail.builders
  · simp [code, generate, Compilation.ofAnalysis, synthesize, Analysis.ruleIds]
  · intro item hitem
    obtain ⟨protocol, _, rfl⟩ := List.mem_map.mp hitem
    exact namesApart_builderItem a m protocol

end TypedGrammar.Code
