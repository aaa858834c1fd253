import Mathlib.Data.List.Basic
import TypedGrammar.Source.Parser

/-!
# Lexemes of grammars

A grammar is written as one sequence of lexemes, with separators between parts or without. The empty
part can be written anywhere, but it is read only as the sole part of its alternative.
-/

namespace TypedGrammar

/-- The lexeme that the part is read from. -/
def Part.lexeme : Part → Lexeme
  | .literal text => .quotedLiteral text
  | .reference name => .identifier name
  | .epsilon => .epsilonMarker

/-- The lexemes that the alternative is read from. -/
def Alternative.lexemes (separated : Bool) (a : Alternative) : List Lexeme :=
  if separated then (a.map Part.lexeme).intersperse .sequenceSeparator else a.map Part.lexeme

def Definition.lexemes (separated : Bool) (d : Definition) : List Lexeme :=
  Alternative.lexemes separated (d.alternatives.head d.alternatives_ne_nil) ++
    d.alternatives.tail.flatMap fun a => .alternativeSeparator :: Alternative.lexemes separated a

def Rule.lexemes (separated : Bool) (r : Rule) : List Lexeme :=
  .identifier r.name :: .ruleAssign :: r.definition.lexemes separated ++ [.ruleTerminator]

def Grammar.lexemes (separated : Bool) (g : Grammar) : List Lexeme :=
  g.rules.flatMap (Rule.lexemes separated)

/-- The empty part occurs only as the sole part of the alternative. -/
def Alternative.EpsilonAlone (a : Alternative) : Prop :=
  .epsilon ∈ a → a = [.epsilon]

def Grammar.EpsilonAlone (g : Grammar) : Prop :=
  ∀ r ∈ g.rules, ∀ a ∈ r.alternatives, Alternative.EpsilonAlone a

lemma Part.part?_lexeme {part : Part} (h : part ≠ .epsilon) : part.lexeme.part? = some part := by
  cases part with
  | literal text => rfl
  | reference name => rfl
  | epsilon => exact absurd rfl h

lemma Part.lexeme_of_part? {lexeme : Lexeme} {part : Part} (h : lexeme.part? = some part) :
    part.lexeme = lexeme ∧ part ≠ .epsilon := by
  cases lexeme <;> cases h <;> simp [lexeme]

lemma Lexeme.eq_of_kind_eq {a b : Lexeme} (h : a.kind = b.kind) (hb : b.part? = none) : a = b := by
  cases a <;> cases b <;> simp_all [kind, part?]

@[simp] lemma Alternative.lexemes_nil (separated : Bool) :
    Alternative.lexemes separated [] = [] := by
  cases separated <;> rfl

@[simp] lemma Alternative.lexemes_singleton (separated : Bool) (part : Part) :
    Alternative.lexemes separated [part] = [part.lexeme] := by
  cases separated <;> rfl

lemma Alternative.lexemes_cons (part : Part) (a : Alternative) :
    Alternative.lexemes false (part :: a) = part.lexeme :: Alternative.lexemes false a :=
  rfl

lemma Alternative.lexemes_cons_cons (first second : Part) (a : Alternative) :
    Alternative.lexemes true (first :: second :: a) =
      first.lexeme :: .sequenceSeparator :: Alternative.lexemes true (second :: a) :=
  rfl

lemma Alternative.exists_lexemes_cons (separated : Bool) (part : Part) (a : Alternative) :
    ∃ rest, Alternative.lexemes separated (part :: a) = part.lexeme :: rest := by
  cases separated with
  | false => exact ⟨_, rfl⟩
  | true => cases a <;> exact ⟨_, rfl⟩

lemma Definition.lexemes_single (separated : Bool) (a : Alternative) :
    (Definition.single a).lexemes separated = Alternative.lexemes separated a := by
  simp [Definition.lexemes, Definition.single]

lemma Definition.lexemes_cons (separated : Bool) (a : Alternative) (d : Definition) :
    (Definition.cons a d).lexemes separated =
      Alternative.lexemes separated a ++ .alternativeSeparator :: d.lexemes separated := by
  obtain ⟨alternatives, hne⟩ := d
  obtain ⟨b, rest, rfl⟩ := List.exists_cons_of_ne_nil hne
  simp [Definition.lexemes, Definition.cons]

/-! ### Which lexemes occur -/

/-- The text of the part if it is a literal. -/
def Part.literal? : Part → Option Line
  | .literal text => some text
  | .reference _ | .epsilon => none

/-- The names in the grammar: those of its rules and those that its parts refer to. -/
def Grammar.identifiers (g : Grammar) : List Name :=
  g.rules.flatMap fun r => r.name :: r.alternatives.flatMap Alternative.references

/-- The texts of the literals in the grammar. -/
def Grammar.literals (g : Grammar) : List Line :=
  g.rules.flatMap fun r => r.alternatives.flatMap (List.filterMap Part.literal?)

lemma Alternative.mem_lexemes_iff {separated : Bool} {a : Alternative} {lexeme : Lexeme}
    (h : lexeme ≠ .sequenceSeparator) :
    lexeme ∈ Alternative.lexemes separated a ↔ ∃ part ∈ a, part.lexeme = lexeme := by
  induction a with
  | nil => simp
  | cons part a ih =>
    have hcons : lexeme ∈ Alternative.lexemes separated (part :: a) ↔
        part.lexeme = lexeme ∨ lexeme ∈ Alternative.lexemes separated a := by
      cases separated with
      | false => rw [Alternative.lexemes_cons, List.mem_cons, eq_comm]
      | true =>
        cases a with
        | nil => simp [eq_comm]
        | cons second a => simp [Alternative.lexemes_cons_cons, h, eq_comm]
    rw [hcons, ih]
    simp [or_and_right, exists_or]

lemma Definition.mem_lexemes_iff {separated : Bool} {d : Definition} {lexeme : Lexeme} :
    lexeme ∈ d.lexemes separated ↔
      (∃ a ∈ d.alternatives, lexeme ∈ Alternative.lexemes separated a) ∨
        (lexeme = .alternativeSeparator ∧ d.alternatives.tail ≠ []) := by
  obtain ⟨alternatives, hne⟩ := d
  obtain ⟨a, rest, rfl⟩ := List.exists_cons_of_ne_nil hne
  simp only [Definition.lexemes, List.head_cons, List.tail_cons, List.mem_append, List.mem_flatMap,
    List.mem_cons, exists_eq_or_imp]
  constructor
  · rintro (h | ⟨b, hb, rfl | h⟩)
    · exact .inl (.inl h)
    · exact .inr ⟨rfl, List.ne_nil_of_mem hb⟩
    · exact .inl (.inr ⟨b, hb, h⟩)
  · rintro ((h | ⟨b, hb, h⟩) | ⟨rfl, hrest⟩)
    · exact .inl h
    · exact .inr ⟨b, hb, .inr h⟩
    · obtain ⟨b, hb⟩ := List.exists_mem_of_ne_nil rest hrest
      exact .inr ⟨b, hb, .inl rfl⟩

/-- Within a definition no rule ends. -/
lemma Definition.ne_of_mem_lexemes {separated : Bool} {d : Definition} {lexeme : Lexeme}
    (h : lexeme ∈ d.lexemes separated) : lexeme ≠ .ruleTerminator ∧ lexeme ≠ .endOfInput := by
  constructor <;>
  · rintro rfl
    rcases Definition.mem_lexemes_iff.mp h with ⟨a, _, ha⟩ | ⟨h, _⟩
    · obtain ⟨part, _, hpart⟩ := (Alternative.mem_lexemes_iff (by simp)).mp ha
      cases part <;> cases hpart
    · cases h

lemma Rule.mem_lexemes_iff {separated : Bool} {r : Rule} {lexeme : Lexeme} :
    lexeme ∈ r.lexemes separated ↔ lexeme = .identifier r.name ∨ lexeme = .ruleAssign ∨
      lexeme ∈ r.definition.lexemes separated ∨ lexeme = .ruleTerminator := by
  simp [Rule.lexemes]

lemma endOfInput_not_mem_lexemes (g : Grammar) (separated : Bool) :
    .endOfInput ∉ g.lexemes separated := by
  intro h
  obtain ⟨r, _, h⟩ := List.mem_flatMap.mp h
  rcases Rule.mem_lexemes_iff.mp h with h | h | h | h
  · cases h
  · cases h
  · exact (Definition.ne_of_mem_lexemes h).2 rfl
  · cases h

lemma sequenceSeparator_not_mem_lexemes (g : Grammar) : .sequenceSeparator ∉ g.lexemes false := by
  intro h
  obtain ⟨r, _, h⟩ := List.mem_flatMap.mp h
  rcases Rule.mem_lexemes_iff.mp h with h | h | h | h
  · cases h
  · cases h
  · rcases Definition.mem_lexemes_iff.mp h with ⟨a, _, ha⟩ | ⟨h, _⟩
    · obtain ⟨part, _, hpart⟩ := List.mem_map.mp ha
      cases part <;> cases hpart
    · cases h
  · cases h

lemma identifier_mem_lexemes_iff {g : Grammar} {separated : Bool} {name : Name} :
    .identifier name ∈ g.lexemes separated ↔ name ∈ g.identifiers := by
  have halternative : ∀ a : Alternative,
      .identifier name ∈ Alternative.lexemes separated a ↔ name ∈ Alternative.references a := by
    intro a
    rw [Alternative.mem_lexemes_iff (by simp), Alternative.references, List.mem_filterMap]
    refine exists_congr fun part => and_congr_right fun _ => ?_
    cases part <;> simp [Part.lexeme, Part.reference?]
  rw [Grammar.lexemes, Grammar.identifiers, List.mem_flatMap, List.mem_flatMap]
  refine exists_congr fun r => and_congr_right fun _ => ?_
  rw [Rule.mem_lexemes_iff, Definition.mem_lexemes_iff, List.mem_cons, List.mem_flatMap]
  simp [halternative, Rule.alternatives]

lemma quotedLiteral_mem_lexemes_iff {g : Grammar} {separated : Bool} {text : Line} :
    .quotedLiteral text ∈ g.lexemes separated ↔ text ∈ g.literals := by
  have halternative : ∀ a : Alternative,
      .quotedLiteral text ∈ Alternative.lexemes separated a ↔ text ∈ a.filterMap Part.literal? := by
    intro a
    rw [Alternative.mem_lexemes_iff (by simp), List.mem_filterMap]
    refine exists_congr fun part => and_congr_right fun _ => ?_
    cases part <;> simp [Part.lexeme, Part.literal?]
  rw [Grammar.lexemes, Grammar.literals, List.mem_flatMap, List.mem_flatMap]
  refine exists_congr fun r => and_congr_right fun _ => ?_
  rw [Rule.mem_lexemes_iff, Definition.mem_lexemes_iff, List.mem_flatMap]
  simp [halternative, Rule.alternatives]

/-- What holds of every delimiter holds of all lexemes of a grammar when it holds of its names and
its literals. -/
lemma Grammar.forall_mem_lexemes_iff {g : Grammar} {separated : Bool} {P : Lexeme → Prop}
    (hP : ∀ lexeme : Lexeme, lexeme.part? = none →
      (lexeme = .sequenceSeparator → separated = true) → P lexeme) :
    (∀ lexeme ∈ g.lexemes separated, P lexeme) ↔
      (∀ name ∈ g.identifiers, P (.identifier name)) ∧
        ∀ text ∈ g.literals, P (.quotedLiteral text) := by
  constructor
  · intro h
    exact ⟨fun name hname => h _ (identifier_mem_lexemes_iff.mpr hname),
      fun text htext => h _ (quotedLiteral_mem_lexemes_iff.mpr htext)⟩
  · rintro ⟨hidentifiers, hliterals⟩ lexeme hmem
    cases hpart : lexeme.part? with
    | none =>
      refine hP lexeme hpart ?_
      rintro rfl
      cases separated with
      | false => exact absurd hmem (sequenceSeparator_not_mem_lexemes g)
      | true => rfl
    | some part =>
      cases lexeme with
      | identifier name => exact hidentifiers name (identifier_mem_lexemes_iff.mp hmem)
      | quotedLiteral text => exact hliterals text (quotedLiteral_mem_lexemes_iff.mp hmem)
      | _ => cases hpart

end TypedGrammar
