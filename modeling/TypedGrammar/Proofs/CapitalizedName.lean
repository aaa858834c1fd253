import Mathlib
import TypedGrammar.Proofs.FreshName
import TypedGrammar.Proofs.NameCharacters

/-!
# Capitalized names

Names are kept apart by their keys, which are lowered, and looked up by their pascal case, which is
capitalized. A word that capitalizing takes no case away from has both in common, so on such words equal
pascal cases mean equal keys. That fails for letters like `ß` and `ı`, whose upper case is that of other
letters; but no name becomes `Build` by capitalizing unless its key is reserved for that.
-/

namespace TypedGrammar

open Unicode

namespace Unicode

/-! ### Characters of an upper case -/

lemma Shift.offsetOf_eq_zero_or (shifts : List Shift) (n : Nat) :
    offsetOf shifts n = 0 ∨ ∃ s ∈ shifts, s.run.contains n = true ∧ offsetOf shifts n = s.offset := by
  induction shifts with
  | nil => exact .inl rfl
  | cons s shifts ih =>
    rw [offsetOf]
    split
    · exact .inl rfl
    · split
      · rename_i hcontains
        exact .inr ⟨s, List.mem_cons_self, hcontains, rfl⟩
      · rcases ih with hzero | ⟨t, ht, hcontains, hoffset⟩
        · exact .inl hzero
        · exact .inr ⟨t, List.mem_cons_of_mem s ht, hcontains, hoffset⟩

/-- The characters that the shifts move to `d`. -/
def Shift.sources (shifts : List Shift) (d : Char) : List Char :=
  (shifts.filter fun s => s.run.contains ((d.toNat : Int) - s.offset).toNat).map fun s =>
    Char.ofNat ((d.toNat : Int) - s.offset).toNat

lemma Shift.eq_or_mem_sources {shifts : List Shift} {c d : Char} (h : apply shifts c = d)
    (hd : d ≠ Char.ofNat 0) : c = d ∨ c ∈ sources shifts d := by
  have hvalid : ((c.toNat : Int) + offsetOf shifts c.toNat).toNat.isValidChar := by
    by_contra hinvalid
    rw [apply, Char.ofNat, dif_neg hinvalid] at h
    exact hd h.symm
  have hnumber : ((c.toNat : Int) + offsetOf shifts c.toNat).toNat = d.toNat := by
    rw [← h, apply, Char.ofNat, dif_pos hvalid]
    rfl
  have hpos : 0 < d.toNat := by
    refine Nat.pos_of_ne_zero fun hzero => hd ?_
    rw [← hzero, Char.ofNat_toNat]
  rcases offsetOf_eq_zero_or shifts c.toNat with hzero | ⟨s, hs, hcontains, hoffset⟩
  · rw [hzero] at hnumber
    exact .inl (Char.toNat_inj.mp (by omega))
  · have hsource : ((d.toNat : Int) - s.offset).toNat = c.toNat := by omega
    refine .inr (List.mem_map.mpr ⟨s, List.mem_filter.mpr ⟨hs, ?_⟩, ?_⟩)
    · rw [hsource]
      exact hcontains
    · rw [hsource, Char.ofNat_toNat]

/-- The characters whose upper case may begin with `d`. -/
def upperSources (d : Char) : List Char :=
  d :: Shift.sources upperShifts d ++
    (upperExpansions.filter fun (_, upper) => upper.head? = some d).map Prod.fst

lemma mem_upperSources {c d : Char} {rest : List Char} (h : toUpper c = d :: rest)
    (hd : d ≠ Char.ofNat 0) : c ∈ upperSources d := by
  rw [toUpper] at h
  cases hlookup : upperExpansions.lookup c with
  | none =>
    rw [hlookup, Option.getD_none] at h
    rcases Shift.eq_or_mem_sources (List.cons.inj h).1 hd with rfl | hsource
    · exact List.mem_append_left _ List.mem_cons_self
    · exact List.mem_append_left _ (List.mem_cons_of_mem d hsource)
  | some upper =>
    rw [hlookup, Option.getD_some] at h
    obtain ⟨before, after, happend, _⟩ := List.lookup_eq_some_iff.mp hlookup
    refine List.mem_append_right _ (List.mem_map.mpr ⟨(c, upper), List.mem_filter.mpr ⟨?_, ?_⟩, rfl⟩)
    · simp [happend]
    · simp [h]

/-- No upper case begins with a letter that follows the first one in `Build`. -/
lemma toUpper_ne_cons {c d : Char} {rest : List Char} (hd : d ∈ "uild".toList) :
    toUpper c ≠ d :: rest := by
  intro h
  have hne : d ≠ Char.ofNat 0 := by
    rintro rfl
    exact absurd hd (by decide)
  have hsources : "uild".toList.all (fun d =>
      (upperSources d).all fun c => (toUpper c).head? ≠ some d) = true := by decide +kernel
  have hd := List.all_eq_true.mp hsources d hd
  exact of_decide_eq_true (List.all_eq_true.mp hd c (mem_upperSources h hne)) (by rw [h]; rfl)

lemma toUpper_ne_nil (c : Char) : toUpper c ≠ [] := by
  rw [toUpper]
  cases hlookup : upperExpansions.lookup c with
  | none => exact List.cons_ne_nil _ _
  | some upper =>
    obtain ⟨before, after, happend, _⟩ := List.lookup_eq_some_iff.mp hlookup
    have hall : ∀ entry ∈ upperExpansions, entry.2 ≠ [] := by decide +kernel
    exact hall (c, upper) (by simp [happend])

end Unicode

/-! ### Names that become `Build` -/

/-- The pascal case of a name with these fragments. -/
def capitalized (fragments : List Line) : List Char :=
  fragments.flatMap fun fragment => Text.capitalize fragment.chars

/-- The key of a name with these fragments. -/
def lowered (fragments : List Line) : List Char :=
  fragments.flatMap fun fragment => Text.lower fragment.chars

variable {fragments : List Line} {d : Char} {rest : List Char}

/-- What is capitalized begins with the capital of the first word that is not empty. -/
lemma exists_word_of_capitalized (h : capitalized fragments = d :: rest) :
    ∃ (c : Char) (word : List Char) (others : List Line),
      toUpper c ++ (word ++ capitalized others) = d :: rest ∧
        lowered fragments = Text.lower (c :: word) ++ lowered others := by
  induction fragments with
  | nil => cases h
  | cons fragment fragments ih =>
    rw [capitalized, List.flatMap_cons] at h
    rw [lowered, List.flatMap_cons]
    cases hchars : fragment.chars with
    | nil =>
      rw [hchars] at h
      exact ih h
    | cons c word =>
      rw [hchars, Text.capitalize, List.append_assoc] at h
      exact ⟨c, word, fragments, h, rfl⟩

lemma exists_toUpper_of_capitalized (h : capitalized fragments = d :: rest) :
    ∃ c rest', toUpper c = d :: rest' := by
  obtain ⟨c, word, others, happend, _⟩ := exists_word_of_capitalized h
  obtain ⟨d', rest', hupper⟩ := List.exists_cons_of_ne_nil (toUpper_ne_nil c)
  rw [hupper, List.cons_append] at happend
  rw [(List.cons.inj happend).1] at hupper
  exact ⟨c, rest', hupper⟩

lemma lowered_eq_nil (h : capitalized fragments = []) : lowered fragments = [] := by
  rw [capitalized, List.flatMap_eq_nil_iff] at h
  rw [lowered, List.flatMap_eq_nil_iff]
  intro fragment hfragment
  have hnil := h fragment hfragment
  cases hchars : fragment.chars with
  | nil => rfl
  | cons c word =>
    rw [hchars, Text.capitalize, List.append_eq_nil_iff] at hnil
    exact absurd hnil.1 (toUpper_ne_nil c)

/-- Only the names with the reserved key are called `Build` in pascal case. -/
theorem key_eq_of_pascalCase_eq_buildName {name : Name} (h : name.pascalCase = buildName) :
    name.key = Text.lower buildName := by
  obtain ⟨c, word, others, happend, hkey⟩ := exists_word_of_capitalized h
  have hsources : (upperSources 'B').all (fun c => toUpper c = ['B'] ∧
      Text.lower (c :: "uild".toList) = Text.lower buildName) = true := by decide +kernel
  obtain ⟨d, rest, hupper⟩ := List.exists_cons_of_ne_nil (toUpper_ne_nil c)
  have hd : d = 'B' := by
    rw [hupper, List.cons_append] at happend
    exact (List.cons.inj happend).1
  rw [hd] at hupper
  obtain ⟨hcapital, hlower⟩ := of_decide_eq_true
    (List.all_eq_true.mp hsources c (mem_upperSources hupper (by decide)))
  have hword : word ++ capitalized others = "uild".toList := by
    rw [hcapital] at happend
    exact (List.cons.inj happend).2
  -- A second word would begin with a capital letter, and there is none left.
  have hothers : capitalized others = [] := by
    cases hcapitals : capitalized others with
    | nil => rfl
    | cons d' rest' =>
      obtain ⟨c', _, hupper'⟩ := exists_toUpper_of_capitalized hcapitals
      have hd' : d' ∈ "uild".toList := by simp [← hword, hcapitals]
      exact absurd hupper' (toUpper_ne_cons hd')
  rw [hothers, List.append_nil] at hword
  rw [Name.key, ← lowered, hkey, lowered_eq_nil hothers, List.append_nil, hword, hlower]

/-! ### Names that keep their case -/

/-- Lowering the upper case of the character gives its lower case, which fails for letters like `ß`. The
capital sigma is not among these, since its lower case depends on what is around it. -/
def Unicode.Recasable (c : Char) : Prop :=
  c ≠ 'Σ' ∧ (toUpper c).flatMap toLower = toLower c

instance (c : Char) : Decidable (Recasable c) :=
  inferInstanceAs (Decidable (_ ∧ _))

lemma recasable_of_ascii (c : Char) (hc : c.toNat < 128) : Recasable c :=
  forall_ascii (by decide +kernel) hc

lemma flatMap_toLower_capitalize {text : List Char} (h : ∀ c ∈ text, Recasable c) :
    (Text.capitalize text).flatMap toLower = Text.lower text := by
  rw [Text.lower_eq_flatMap fun hsigma => (h 'Σ' hsigma).1 rfl]
  cases text with
  | nil => rfl
  | cons c text =>
    rw [Text.capitalize, List.flatMap_append, (h c List.mem_cons_self).2, List.flatMap_cons]

/-- The pascal case of a name that keeps its case determines the key. -/
theorem key_eq_flatMap_pascalCase {name : Name} (h : name.Consists Recasable) :
    name.key = name.pascalCase.flatMap toLower := by
  rw [Name.key, Name.pascalCase, List.flatMap_assoc]
  refine List.flatMap_congr fun fragment hfragment => ?_
  exact (flatMap_toLower_capitalize (h fragment hfragment)).symm

end TypedGrammar
