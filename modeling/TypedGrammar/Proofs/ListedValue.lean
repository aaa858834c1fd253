import Mathlib
import TypedGrammar.Proofs.SuppliedSelection

/-!
# Listed values

The values listed for a rule are as many as the trees that they build, and their trees come in the order of
the alternatives. What supplies its terms by itself is settled at every depth.
-/

namespace TypedGrammar

/-- The first tree comes before the second: it has an earlier alternative at the root or, with the same
alternative there, at the first of the children in which they differ. -/
inductive DerivationTree.Before : DerivationTree → DerivationTree → Prop where
  | alternative {rule i j : ℕ} {children children' : List DerivationTree} (h : i < j) :
      (DerivationTree.node rule i children).Before (.node rule j children')
  | child {rule i : ℕ} {before after after' : List DerivationTree} {tree tree' : DerivationTree}
      (h : tree.Before tree') :
      (DerivationTree.node rule i (before ++ tree :: after)).Before
        (.node rule i (before ++ tree' :: after'))

/-- Both selections leave nothing open, and the tree of the first comes before that of the second. -/
def NamedSelection.Before (x y : NamedSelection) : Prop :=
  ∃ tree tree', x.selection.value? none [] = some tree ∧ y.selection.value? none [] = some tree' ∧
    tree.Before tree'

/-- The fill is a literal, empty or a fixed selection with such fills only. -/
inductive Fill.Settled : Fill → Prop where
  | literal (text : Line) : Fill.Settled (.literal text)
  | empty : Fill.Settled .empty
  | fixed {rule : RuleId} {variant : ℕ} {fills : List Fill} (h : ∀ fill ∈ fills, fill.Settled) :
      Fill.Settled (.fixed rule variant fills)

/-! ### As many values as trees -/

section Enumerates

variable {p : DerivationTree → Prop} {values : List NamedSelection}

lemma Enumerates.encard_eq (h : Enumerates p values) : {tree | p tree}.encard = values.length := by
  classical
  obtain ⟨trees, hvalues, hnodup, hmem⟩ := h
  have hlength : values.length = trees.length := by simpa using congrArg List.length hvalues
  have hset : {tree | p tree} = (trees.toFinset : Set DerivationTree) := by
    ext tree
    simp [hmem]
  rw [hset, Set.encard_coe_eq_coe_finsetCard, List.toFinset_card_of_nodup hnodup, hlength]

lemma Enumerates.exists_tree (h : Enumerates p values) {value : NamedSelection}
    (hvalue : value ∈ values) : ∃ tree, value.selection.value? none [] = some tree ∧ p tree := by
  obtain ⟨trees, hvalues, _, hmem⟩ := h
  have htree := List.mem_map_of_mem (f := fun value => value.selection.value? none []) hvalue
  rw [hvalues] at htree
  obtain ⟨tree, htree, heq⟩ := List.mem_map.mp htree
  exact ⟨tree, heq.symm, (hmem tree).mp htree⟩

lemma Enumerates.ne_nil (h : Enumerates p values) {tree : DerivationTree} (htree : p tree) :
    values ≠ [] := by
  obtain ⟨trees, hvalues, _, hmem⟩ := h
  rintro rfl
  obtain rfl := List.map_eq_nil_iff.mp hvalues.symm
  exact List.not_mem_nil ((hmem tree).mpr htree)

end Enumerates

/-! ### Order of the values -/

section Order

variable {inner : RuleId → Option (List NamedSelection)} {rule : RuleId} {index : ℕ}

/-- The values of a variant are in the order of those of the one rule that it may hold. -/
lemma Variant.pairwise_before
    (hinner : ∀ sub values, inner sub = some values → values.Pairwise NamedSelection.Before)
    {v : Variant} {values : List NamedSelection} (h : v.enumerate? inner rule index = some values) :
    values.Pairwise NamedSelection.Before := by
  unfold Variant.enumerate? at h
  split at h
  · rename_i sub _
    obtain ⟨others, hothers, rfl⟩ := Option.map_eq_some_iff.mp h
    refine (hinner sub others hothers).map _ fun x y hbefore => ?_
    obtain ⟨tree, tree', htree, htree', hbefore⟩ := hbefore
    refine ⟨.node rule index [tree], .node rule index [tree'], ?_, ?_, ?_⟩
    · rw [value?_fixed, htree, Option.map_some]
    · rw [value?_fixed, htree', Option.map_some]
    · exact @DerivationTree.Before.child rule index [] [] [] tree tree' hbefore
  · split at h
    · cases h
      exact List.pairwise_singleton _ _
    · cases h

/-- Values of an earlier variant come before those of a later one. -/
lemma pairwise_before_variants {g : Grammar}
    (hinner : ∀ sub values, inner sub = some values → Enumerates (g.Derives sub) values)
    (hbefore : ∀ sub values, inner sub = some values → values.Pairwise NamedSelection.Before)
    {variants : List Variant} {lists : List (List NamedSelection)}
    (h : ((variants.zipIdx index).mapM fun v : Variant × ℕ => v.1.enumerate? inner rule v.2) =
      some lists) : lists.flatten.Pairwise NamedSelection.Before := by
  induction variants generalizing index lists with
  | nil =>
    cases h
    exact .nil
  | cons v variants ih =>
    simp only [List.zipIdx_cons, List.mapM_cons, Option.bind_eq_bind, Option.bind_eq_some_iff] at h
    obtain ⟨first, hfirst, rest, hrest, hlists⟩ := h
    cases hlists
    rw [List.flatten_cons]
    refine List.pairwise_append.mpr ⟨v.pairwise_before hbefore hfirst, ih hrest, ?_⟩
    intro x hx y hy
    obtain ⟨_, hxtree, children, _, rfl⟩ := (v.enumerates hinner hfirst).exists_tree hx
    obtain ⟨_, hytree, i, _, children', _, _, rfl⟩ :=
      (enumerates_variants hinner hrest).exists_tree hy
    exact ⟨_, _, hxtree, hytree, .alternative (by omega)⟩

end Order

/-! ### Settled fills -/

/-- What supplies terms without a value so far and without anything from the caller is settled. -/
lemma Fill.Supply.settled {m : TypeModel} {fills : List Fill} {terms : List Term}
    (h : Fill.Supply m none fills terms) (harguments : fills.filterMap Fill.argument? = []) :
    ∀ fill ∈ fills, fill.Settled := by
  generalize hheld : none = held at h
  induction h with
  | nil => exact List.forall_mem_nil _
  | previous => cases hheld
  | literal _ ih => exact List.forall_mem_cons.mpr ⟨.literal _, ih harguments hheld⟩
  | empty _ ih => exact List.forall_mem_cons.mpr ⟨.empty, ih harguments hheld⟩
  | argument => cases harguments
  | fixed _ hclosed _ _ ihinner ih =>
    exact List.forall_mem_cons.mpr ⟨.fixed (ihinner hclosed rfl), ih harguments hheld⟩

end TypedGrammar
