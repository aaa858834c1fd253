import TypedGrammar.Analysis.Error

/-!
# Productive rules

A rule is productive when it derives a finite sequence. Passes over the rules mark those that have
an alternative without references to unmarked rules, until a pass marks none; what is not marked by
then is unproductive.
-/

namespace TypedGrammar.Grammar

/-- Whether the alternative refers only to marked rules. -/
def derivesFrom (g : Grammar) (marks : List Bool) (a : Alternative) : Bool :=
  (Alternative.references a).all fun name => (g.find? name).any fun id => marks[id]?.getD false

/-- Marks the rule if it is not marked yet and one of its alternatives refers only to marked
rules. -/
def mark (g : Grammar) (marks : List Bool) (r : Rule × RuleId) : List Bool :=
  if marks[r.2]? = some false ∧ r.1.alternatives.any (g.derivesFrom marks) = true then
    marks.set r.2 true
  else
    marks

/-- Marks rules in source order. A rule that is marked counts for those after it at once. -/
def markPass (g : Grammar) (marks : List Bool) : List Bool :=
  g.rules.zipIdx.foldl g.mark marks

theorem mark_eq_or_count_lt (g : Grammar) (marks : List Bool) (r : Rule × RuleId) :
    g.mark marks r = marks ∨ (g.mark marks r).count false < marks.count false := by
  unfold mark
  split
  · rename_i h
    obtain ⟨hlt, hmark⟩ := List.getElem?_eq_some_iff.mp h.1
    have hpos : 0 < marks.count false := List.count_pos_iff.mpr (hmark ▸ List.getElem_mem hlt)
    right
    rw [List.count_set hlt, hmark]
    simpa using Nat.sub_lt hpos Nat.one_pos
  · exact .inl rfl

theorem foldl_mark_eq_or_count_lt (g : Grammar) (rules : List (Rule × RuleId)) (marks : List Bool) :
    rules.foldl g.mark marks = marks ∨
      (rules.foldl g.mark marks).count false < marks.count false := by
  induction rules generalizing marks with
  | nil => exact .inl rfl
  | cons r rules ih =>
    rw [List.foldl_cons]
    rcases g.mark_eq_or_count_lt marks r with hmark | hmark
    · rw [hmark]
      exact ih marks
    · right
      rcases ih (g.mark marks r) with hrest | hrest
      · rwa [hrest]
      · exact Nat.lt_trans hrest hmark

/-- The marks after passing over the rules until nothing changes. -/
def markProductive (g : Grammar) (marks : List Bool) : List Bool :=
  if _h : g.markPass marks = marks then marks else g.markProductive (g.markPass marks)
termination_by marks.count false
decreasing_by
  exact (g.foldl_mark_eq_or_count_lt g.rules.zipIdx marks).resolve_left _h

/-- Which rules derive a finite sequence, in source order. -/
def productive (g : Grammar) : List Bool :=
  g.markProductive (List.replicate g.size false)

/-- The errors for rules that derive no finite sequence. -/
def productivityErrors (g : Grammar) : List SemanticError :=
  (g.productive.zip g.rules).filterMap fun (productive, r) =>
    if productive then none else some (.unproductiveRule r.name)

end TypedGrammar.Grammar
