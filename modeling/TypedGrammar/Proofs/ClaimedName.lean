import Mathlib
import TypedGrammar.Name.Spelling
import TypedGrammar.Proofs.FreshName

/-!
# Claimed names

A set hands out one name after the other. What it looks for when a name clashes is found by counting up from
two: every candidate that clashes has the key of another name, so there are at most as many of them as there are
names and reserved words before, and the count ends. The candidates are put together from the words of the name
and the counter, which are never all dropped. Counting with a limit of rounds is the same when the limit is as
large.
-/

namespace TypedGrammar

lemma Text.leastFree_le (candidate : ℕ → List Char) (n : ℕ) (taken : List (List Char)) :
    leastFree candidate n taken ≤ n + taken.length := by
  fun_induction leastFree candidate n taken with
  | case1 n taken hmem ih =>
    have hlength := List.length_erase_of_mem hmem
    have hpos := List.length_pos_of_mem hmem
    omega
  | case2 n taken hmem => exact Nat.le_add_right n _

namespace Name

lemma ofWords_chars (name fallback : Name) :
    ofWords (name.fragments.map Line.chars) fallback = name := by
  have hlines : (fun word => (Line.ofText? word).toOption) ∘ Line.chars = some := by
    funext line
    rw [Function.comp_apply, Line.ofText?_chars]
    rfl
  rw [ofWords, List.filterMap_map, hlines, List.filterMap_some, ofFragmentsD,
    dif_neg name.fragments_ne_nil]

/-- All words of a numbered name are lines, so that none is dropped. -/
lemma ofWords_numbered (name fallback : Name) (n : ℕ) :
    ofWords (name.fragments.map Line.chars ++ [Nat.toDigits 10 n]) fallback = name.numbered n := by
  rw [← ofWords_chars (name.numbered n) fallback, numbered, List.map_append]
  rfl

end Name

namespace NameSet

/-! ### Counting with a limit -/

/-- Counts up from `n` to a name whose key is free. The counter itself has no limit: a signed one of 32
bits that starts at two agrees with it as long as fewer than `2 ^ 31 - 2` names are taken. -/
def countUp (names : NameSet) (name : Name) : ℕ → ℕ → Option Name
  | 0, _ => none
  | rounds + 1, n =>
    let candidate := Name.ofWords (name.fragments.map Line.chars ++ [Nat.toDigits 10 n]) name
    if names.taken.contains candidate.key then names.countUp name rounds (n + 1) else some candidate

/-- Hands out a name as it is or counted up, unless the count reaches the limit. -/
def claimWithin (rounds : ℕ) (names : NameSet) (name : Name) : Option (Name × NameSet) := do
  let name ← if names.taken.contains name.key then names.countUp name rounds 2 else some name
  return (name, ⟨name.key :: names.taken⟩)

def claimAllWithin (rounds : ℕ) (names : NameSet) : List Name → Option (List Name × NameSet)
  | [] => some ([], names)
  | name :: rest => do
    let first ← names.claimWithin rounds name
    let others ← first.2.claimAllWithin rounds rest
    return (first.1 :: others.1, others.2)

variable {names : NameSet} {name result : Name} {rounds : ℕ} {requests : List Name}

lemma countUp_eq {n m : ℕ} (hn : n ≤ m) (hfree : (name.numbered m).key ∉ names.taken)
    (htaken : ∀ k, n ≤ k → k < m → (name.numbered k).key ∈ names.taken) (hrounds : m - n < rounds) :
    names.countUp name rounds n = some (name.numbered m) := by
  induction rounds generalizing n with
  | zero => exact absurd hrounds (Nat.not_lt_zero _)
  | succ rounds ih =>
    rw [countUp, Name.ofWords_numbered]
    rcases Nat.eq_or_lt_of_le hn with rfl | hlt
    · rw [if_neg (by simpa using hfree)]
    · rw [if_pos (by simpa using htaken n (Nat.le_refl n) hlt)]
      exact ih hlt (fun k hk => htaken k (Nat.le_of_succ_le hk)) (by omega)

lemma claimWithin_eq (h : names.taken.length < rounds) :
    names.claimWithin rounds name = some (names.claim name) := by
  have hcount : names.countUp name rounds 2 = some (name.numbered
      (Text.leastFree (fun n => (name.numbered n).key) 2 names.taken)) := by
    obtain ⟨hle, hfree, htaken⟩ := Text.leastFree_spec name.key_numbered_injective 2 names.taken
    have hbound := Text.leastFree_le (fun n => (name.numbered n).key) 2 names.taken
    exact countUp_eq hle hfree htaken (by omega)
  rw [claimWithin, hcount, claim, fresh]
  split <;> rfl

lemma claimAllWithin_eq (h : names.taken.length + requests.length ≤ rounds) :
    names.claimAllWithin rounds requests = some (names.claimAll requests) := by
  induction requests generalizing names with
  | nil => rfl
  | cons name rest ih =>
    rw [List.length_cons] at h
    rw [claimAllWithin, claimWithin_eq (by omega), Option.bind_eq_bind, Option.bind_some,
      ih (by simp [claim]; omega)]
    rfl

/-! ### What is handed out -/

/-- The name that is to be handed out for a name while these keys are taken: itself if its key is free, and else
with the least counter from two upward that makes its key free. -/
inductive Grants (taken : List (List Char)) (name : Name) : Name → Prop
  | unchanged (hfree : name.key ∉ taken) : Grants taken name name
  | numbered {n : ℕ} (htaken : name.key ∈ taken) (hn : 2 ≤ n) (hfree : (name.numbered n).key ∉ taken)
      (hleast : ∀ k, 2 ≤ k → k < n → (name.numbered k).key ∈ taken) : Grants taken name (name.numbered n)

lemma Grants.congr {taken taken' : List (List Char)} (h : Grants taken name result)
    (htaken : ∀ key, key ∈ taken ↔ key ∈ taken') : Grants taken' name result := by
  cases h with
  | unchanged hfree => exact .unchanged (by rwa [← htaken])
  | numbered hmem hn hfree hleast =>
    simp only [htaken] at hmem hfree hleast
    exact .numbered hmem hn hfree hleast

lemma grants_fresh (names : NameSet) (name : Name) :
    Grants names.taken name (names.fresh name) := by
  rw [fresh]
  split
  · rename_i hmem
    obtain ⟨hle, hfree, hleast⟩ := Text.leastFree_spec name.key_numbered_injective 2 names.taken
    exact .numbered (by simpa using hmem) hle hfree hleast
  · rename_i hfree
    exact .unchanged (by simpa using hfree)

/-- Every call is granted a name while the keys of the names before it are taken. -/
lemma grants_claimAll (names : NameSet) {i : ℕ} (h : requests[i]? = some name) :
    ∃ result, (names.claimAll requests).1[i]? = some result ∧
      Grants (names.taken ++ ((names.claimAll requests).1.take i).map Name.key) name result := by
  induction requests generalizing names i with
  | nil => cases h
  | cons request rest ih =>
    cases i with
    | zero =>
      cases h
      exact ⟨names.fresh name, rfl, (names.grants_fresh name).congr (by simp)⟩
    | succ i =>
      obtain ⟨result, hresult, hgrants⟩ := ih (names.claim request).2 h
      refine ⟨result, hresult, hgrants.congr fun key => ?_⟩
      simp only [claimAll, claim, List.take_succ_cons, List.map_cons, List.mem_append, List.mem_cons]
      tauto

lemma length_map_claimAll (names : NameSet) (requests : List Name) :
    (names.claimAll requests).1.length = requests.length := by
  induction requests generalizing names with
  | nil => rfl
  | cons request rest ih => exact congrArg (· + 1) (ih _)

/-- No key is that of another name or was taken before. -/
lemma nodup_key_claimAll (names : NameSet) (requests : List Name) :
    ((names.claimAll requests).1.map Name.key).Nodup ∧
      ∀ result ∈ (names.claimAll requests).1, result.key ∉ names.taken := by
  induction requests generalizing names with
  | nil => exact ⟨List.nodup_nil, nofun⟩
  | cons request rest ih =>
    obtain ⟨hnodup, hapart⟩ := ih (names.claim request).2
    have hfirst : (names.fresh request).key ∉ names.taken := key_fresh_not_mem
    refine ⟨List.nodup_cons.mpr ⟨fun hmem => ?_, hnodup⟩, List.forall_mem_cons.mpr ⟨hfirst, ?_⟩⟩
    · obtain ⟨result, hresult, hkey⟩ := List.mem_map.mp hmem
      exact hapart result hresult (hkey ▸ List.mem_cons_self)
    · exact fun result hresult hmem => hapart result hresult (List.mem_cons_of_mem _ hmem)

/-- A set hands out fresh names. Every call ends, after no more rounds than there are reserved words and calls.
The keys of the names differ from one another and from each reserved word in lower case. A call answers with the
name it is asked for if its key is free, and else with the name and the least counter that makes its key free,
put together from words none of which is dropped. -/
theorem claimAll_fresh (reserved : List (List Char)) (requests : List Name) :
    ∃ claimed after, (reserving reserved).claimAll requests = (claimed, after) ∧
      (∀ rounds, reserved.length + requests.length ≤ rounds →
        (reserving reserved).claimAllWithin rounds requests = some (claimed, after)) ∧
      claimed.length = requests.length ∧
      (claimed.map Name.key).Nodup ∧
      (∀ name ∈ claimed, ∀ word ∈ reserved, name.key ≠ Text.lower word) ∧
      (∀ (i : ℕ) (request : Name), requests[i]? = some request →
        ∃ name, claimed[i]? = some name ∧
          Grants (reserved.map Text.lower ++ (claimed.take i).map Name.key) request name) ∧
      ∀ (name fallback : Name) (n : ℕ),
        Name.ofWords (name.fragments.map Line.chars ++ [Nat.toDigits 10 n]) fallback = name.numbered n := by
  obtain ⟨hnodup, hapart⟩ := nodup_key_claimAll (reserving reserved) requests
  refine ⟨_, _, rfl, fun rounds hrounds => ?_, length_map_claimAll _ _, hnodup,
    fun name hname word hword hkey => ?_, fun i request => grants_claimAll _, Name.ofWords_numbered⟩
  · exact claimAllWithin_eq (by rwa [reserving, List.length_map])
  · exact hapart name hname (hkey ▸ List.mem_map_of_mem hword)

/-- Names that are written in different ways and have keys in common. -/
def respelled : List Name :=
  ["one", "One", "one", "build", "a b", "ab"].filterMap fun text => (Name.ofText? text.toList).toOption

theorem claimAll_fresh_respelled :
    ∃ claimed after, (reserving ["build".toList]).claimAll respelled = (claimed, after) ∧
      (reserving ["build".toList]).claimAllWithin 7 respelled = some (claimed, after) ∧
      claimed.map Name.text = ["one", "One 2", "one 3", "build 2", "a b", "ab 2"] := by
  have htext : ((reserving ["build".toList]).claimAll respelled).1.map Name.text =
      ["one", "One 2", "one 3", "build 2", "a b", "ab 2"] := by decide +kernel
  obtain ⟨claimed, after, hclaimed, hwithin, _⟩ := claimAll_fresh ["build".toList] respelled
  rw [hclaimed] at htext
  exact ⟨claimed, after, hclaimed, hwithin 7 (by decide +kernel), htext⟩

end NameSet

end TypedGrammar
