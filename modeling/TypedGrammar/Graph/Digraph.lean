/-!
# Finite directed graphs

A `Digraph` lists the successors of each of its vertices, which are the numbers below its size.
`reachableFrom` searches along the edges; a vertex is reachable from itself.
-/

namespace TypedGrammar

/-- A graph on the numbers below the length of the list, with the successors of each. -/
structure Digraph where
  successorLists : List (List Nat)
  deriving DecidableEq

namespace Digraph

/-- The graph on the numbers below `size` with an edge wherever `edge` says so. -/
def ofEdges (size : Nat) (edge : Nat → Nat → Bool) : Digraph :=
  ⟨(List.range size).map fun a => (List.range size).filter (edge a)⟩

def size (g : Digraph) : Nat :=
  g.successorLists.length

/-- The vertices one edge away, ascending. -/
def successors (g : Digraph) (a : Nat) : List Nat :=
  g.successorLists[a]?.getD []

theorem size_ofEdges (size : Nat) (edge : Nat → Nat → Bool) : (ofEdges size edge).size = size := by
  simp [ofEdges, Digraph.size]

theorem mem_successors_ofEdges {size : Nat} {edge : Nat → Nat → Bool} {a b : Nat} :
    b ∈ (ofEdges size edge).successors a ↔ a < size ∧ b < size ∧ edge a b = true := by
  by_cases ha : a < size <;> simp [ofEdges, successors, ha]

/-- Number of steps that a search takes at most to visit the vertices and look at each edge. -/
def searchSteps (g : Digraph) : List Nat → Nat
  | [] => 0
  | a :: vertices => (g.successors a).length + 1 + g.searchSteps vertices

theorem searchSteps_erase (g : Digraph) {a : Nat} {vertices : List Nat} (h : a ∈ vertices) :
    (g.successors a).length + 1 + g.searchSteps (vertices.erase a) = g.searchSteps vertices := by
  induction vertices with
  | nil => cases h
  | cons b vertices ih =>
    by_cases hb : b = a
    · subst hb
      rw [List.erase_cons_head, searchSteps]
    · have hmem := (List.mem_cons.mp h).resolve_left (Ne.symm hb)
      have hrest := ih hmem
      rw [List.erase_cons_tail (by simpa using hb), searchSteps, searchSteps]
      omega

/-- What is left of `unseen` after the search has visited `pending` and all that it leads to. A
visited vertex is taken out of `unseen`, and its successors are visited next. -/
def unreached (g : Digraph) (unseen pending : List Nat) : List Nat :=
  match pending with
  | [] => unseen
  | a :: pending =>
    if a ∈ unseen then g.unreached (unseen.erase a) (g.successors a ++ pending)
    else g.unreached unseen pending
termination_by g.searchSteps unseen + pending.length
decreasing_by
  · rename_i h
    have := g.searchSteps_erase h
    rw [List.length_append, List.length_cons]
    omega
  · rw [List.length_cons]
    omega

/-- The vertices that `a` leads to in any number of steps, itself included, ascending. -/
def reachableFrom (g : Digraph) (a : Nat) : List Nat :=
  let missed := g.unreached (List.range g.size) [a]
  (List.range g.size).filter (· ∉ missed)

/-- Whether `a` leads to `b` in any number of steps. -/
def reaches (g : Digraph) (a b : Nat) : Bool :=
  b < g.size && b ∉ g.unreached (List.range g.size) [a]

/-- Whether `a` leads to itself in one step or more. -/
def isCyclic (g : Digraph) (a : Nat) : Bool :=
  (g.successors a).any (g.reaches · a)

theorem mem_reachableFrom {g : Digraph} {a b : Nat} :
    b ∈ g.reachableFrom a ↔ g.reaches a b = true := by
  simp [reachableFrom, reaches]

end Digraph

end TypedGrammar
