import Mathlib.Data.List.Basic
import TypedGrammar.Name.Fresh

/-!
# Freshness of names

The counter of a name that clashes is the least one whose key is free. It exists because keys with
different counters differ: the digits of the counter are what the key ends in, and lowering keeps them.
So the key of a name that a set hands out is neither reserved nor that of a name before it.
-/

namespace TypedGrammar

open Unicode

namespace Unicode

/-- A statement about all characters of one byte is a statement about their numbers. -/
lemma forall_ascii {p : Char → Prop} (h : ∀ n < 128, p (Char.ofNat n)) {c : Char}
    (hc : c.toNat < 128) : p c := by
  have hp := h c.toNat hc
  rwa [Char.ofNat_toNat] at hp

lemma toLower_of_isDigit {c : Char} (hc : c.isDigit = true) : toLower c = [c] := by
  have hascii : c.toNat < 128 := by
    simp only [Char.isDigit, Bool.and_eq_true, decide_eq_true_eq] at hc
    have hle : c.val.toNat ≤ 57 := UInt32.le_iff_toNat_le.mp hc.2
    exact Nat.lt_of_le_of_lt hle (by decide)
  revert hc
  exact forall_ascii (p := fun c => c.isDigit = true → toLower c = [c]) (by decide +kernel) hascii

end Unicode

namespace Text

lemma toDigits_injective : Function.Injective (Nat.toDigits 10) := by
  intro a b h
  have hvalue := congrArg (fun digits => Nat.ofDigitChars 10 digits 0) h
  simpa using hvalue

/-- The counter that is found is the least from `n` upward with a free candidate. -/
theorem leastFree_spec {candidate : Nat → List Char} (h : Function.Injective candidate) (n : Nat)
    (taken : List (List Char)) :
    n ≤ leastFree candidate n taken ∧ candidate (leastFree candidate n taken) ∉ taken ∧
      ∀ k, n ≤ k → k < leastFree candidate n taken → candidate k ∈ taken := by
  fun_induction leastFree candidate n taken with
  | case1 n taken hmem ih =>
    obtain ⟨hle, hfree, hleast⟩ := ih
    refine ⟨by omega, fun hmem' => hfree ?_, fun k hk hlt => ?_⟩
    -- The candidate that is dropped from the list is not the one that is found.
    · refine (List.mem_erase_of_ne fun heq => ?_).mpr hmem'
      have hsame := h heq
      omega
    · rcases Nat.eq_or_lt_of_le hk with rfl | hk
      · exact hmem
      · exact List.mem_of_mem_erase (hleast k hk hlt)
  | case2 n taken hmem => exact ⟨Nat.le_refl n, hmem, fun k hk hlt => by omega⟩

/-- Without the capital sigma the characters are lowered one by one. -/
lemma lowerAfter_eq_flatMap {text : List Char} (h : 'Σ' ∉ text) (before : List Char) :
    lowerAfter before text = text.flatMap toLower := by
  induction text generalizing before with
  | nil => rfl
  | cons c text ih =>
    rw [lowerAfter, if_neg (List.ne_of_not_mem_cons h).symm, ih (List.not_mem_of_not_mem_cons h),
      List.flatMap_cons]

lemma lower_eq_flatMap {text : List Char} (h : 'Σ' ∉ text) : lower text = text.flatMap toLower :=
  lowerAfter_eq_flatMap h []

end Text

namespace Name

lemma lower_toDigits (n : Nat) : Text.lower (Nat.toDigits 10 n) = Nat.toDigits 10 n := by
  have hdigit : ∀ c ∈ Nat.toDigits 10 n, c.isDigit = true := fun c hc =>
    Nat.isDigit_of_mem_toDigits (by decide) (by decide) hc
  rw [Text.lower_eq_flatMap fun hsigma => absurd (hdigit _ hsigma) (by decide)]
  rw [List.flatMap_congr fun c hc => toLower_of_isDigit (hdigit c hc), List.flatMap_singleton']

lemma key_numbered (name : Name) (n : Nat) :
    (name.numbered n).key = name.key ++ Nat.toDigits 10 n := by
  simp [key, numbered, counter, lower_toDigits]

lemma key_numbered_injective (name : Name) : Function.Injective fun n => (name.numbered n).key := by
  intro a b h
  simp only [key_numbered, List.append_cancel_left_eq] at h
  exact Text.toDigits_injective h

end Name

namespace NameSet

variable {names : NameSet} {name : Name}

lemma key_fresh_not_mem : (names.fresh name).key ∉ names.taken := by
  rw [fresh]
  split
  · exact (Text.leastFree_spec name.key_numbered_injective 2 names.taken).2.1
  · rename_i h
    simpa using h

end NameSet

end TypedGrammar
