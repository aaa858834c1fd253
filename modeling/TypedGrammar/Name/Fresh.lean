import TypedGrammar.Name.Basic
import TypedGrammar.Text.Counter

/-!
# Fresh names

A `NameSet` hands out names that stay apart in any casing: two names clash when their fragments,
lowered and put together, are the same text. A name that clashes gets the least counter from two
upward that makes it fresh.
-/

namespace TypedGrammar

namespace Name

/-- What two names must not share: the fragments in lower case, without anything between. -/
def key (name : Name) : List Char :=
  name.fragments.flatMap fun fragment => Text.lower fragment.chars

/-- The decimal digits of `n` as a fragment. -/
def counter (n : Nat) : Line :=
  ⟨Nat.toDigits 10 n, by
    rw [List.all_eq_true]
    intro c hc
    have hdigit := Nat.isDigit_of_mem_toDigits (b := 10) (by decide) (by decide) hc
    by_cases h : c = '\n'
    · subst h; exact absurd hdigit (by decide)
    · by_cases h' : c = '\r'
      · subst h'; exact absurd hdigit (by decide)
      · simp [isLineBreak, h, h']⟩

/-- The name with a counter as its last fragment. -/
def numbered (name : Name) (n : Nat) : Name :=
  ⟨name.fragments ++ [counter n], by simp⟩

end Name

/-- The keys of the names handed out so far, and of those that nothing may be called. -/
structure NameSet where
  taken : List (List Char)

namespace NameSet

/-- The set that has handed out nothing and reserves nothing. -/
def empty : NameSet :=
  ⟨[]⟩

/-- The set that reserves these words in any casing. -/
def reserving (words : List (List Char)) : NameSet :=
  ⟨words.map Text.lower⟩

/-- The name to use for `name`: itself if it is fresh, and else with a counter. -/
def fresh (names : NameSet) (name : Name) : Name :=
  if names.taken.contains name.key then
    name.numbered (Text.leastFree (fun n => (name.numbered n).key) 2 names.taken)
  else
    name

/-- Hands out a fresh name for `name` and takes its key. -/
def claim (names : NameSet) (name : Name) : Name × NameSet :=
  let name := names.fresh name
  (name, ⟨name.key :: names.taken⟩)

def claimAll (names : NameSet) : List Name → List Name × NameSet
  | [] => ([], names)
  | name :: rest =>
    let (first, names) := names.claim name
    let (others, names) := names.claimAll rest
    (first :: others, names)

end NameSet

end TypedGrammar
