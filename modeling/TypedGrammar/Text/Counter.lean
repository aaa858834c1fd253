/-!
# Counting up to a free text

`leastFree` finds the first counter whose candidate text is not taken. It is meant for candidates
that differ from one another, as texts do that end in different numbers.
-/

namespace TypedGrammar.Text

/-- The first counter from `n` upward whose candidate is not among `taken`. A candidate that is
found is dropped from the list: the ones after it differ from it, so it is not looked for again.

The counter has no limit, but is never greater than `n + taken.length`: a signed counter of 32 bits
agrees with it as long as this is less than `2 ^ 31`, for `n = 2` while fewer than `2 ^ 31 - 2` texts
are taken. -/
def leastFree (candidate : Nat → List Char) (n : Nat) (taken : List (List Char)) : Nat :=
  if candidate n ∈ taken then leastFree candidate (n + 1) (taken.erase (candidate n)) else n
termination_by taken.length
decreasing_by
  rename_i h
  have hlength := List.length_erase_of_mem h
  have hpos := List.length_pos_of_mem h
  omega

end TypedGrammar.Text
