/-!
# Runs of code points

A property of characters is a list of runs in ascending order. `Run.mem runs c` decides whether
the code point of `c` lies in one of them. All properties and mappings are those of version 17 of
the Unicode standard.
-/

namespace TypedGrammar.Unicode

/-- The code points `first`, `first + stride`, `first + 2 * stride`, ... up to `last`. -/
structure Run where
  first : Nat
  last : Nat
  stride : Nat

namespace Run

/-- Whether `n` is one of the code points of the run. -/
def contains (r : Run) (n : Nat) : Bool :=
  r.first ≤ n && n ≤ r.last && (n - r.first) % r.stride == 0

/-- Whether `n` lies in one of the runs. They ascend, so the search ends at the first run that
begins after `n`. -/
def anyContains : List Run → Nat → Bool
  | [], _ => false
  | r :: rs, n => if n < r.first then false else r.contains n || anyContains rs n

/-- Whether the character lies in one of the runs. -/
def mem (runs : List Run) (c : Char) : Bool :=
  anyContains runs c.toNat

end Run

end TypedGrammar.Unicode
