import Mathlib
import TypedGrammar.Proofs.LexicalFailure

/-!
# Reading rule by rule

A grammar is read by asking for its rules one after the other until the input ends, so whoever asks for single
rules gets the same rules from the same tokens, and the same error. A source of one rule is a grammar of that
rule. What is asked for there beyond the rule is that the input ends, and the parser moves past the end as past
any other token: it can, since the end of the input is not followed by an error of the lexer.
-/

namespace TypedGrammar

namespace Parser

variable {p q : Parser} {g : Grammar} {r : Rule} {error : ParseError}

/-! ### The end of the input -/

/-- Nothing but the end of the input follows the end of the input. -/
structure EndsOnce (p : Parser) : Prop where
  ahead : ∀ token ∈ p.ahead.tokens, token.lexeme ≠ .endOfInput
  drained : p.current.lexeme = .endOfInput → p.Drained

lemma endsOnce_of_pull {s : TokenStream} (hs : ∀ token ∈ s.tokens, token.lexeme ≠ .endOfInput)
    (hpull : s.pull = (.ok p.current, p.ahead)) : p.EndsOnce := by
  rcases s with ⟨_ | ⟨token, tokens⟩, position | ⟨error, location⟩⟩
  · obtain ⟨_, hahead⟩ := Prod.mk.inj hpull
    exact ⟨by rw [← hahead]; exact hs, fun _ => ⟨position, hahead.symm⟩⟩
  · cases (Prod.mk.inj hpull).1
  all_goals
    obtain ⟨hcurrent, hahead⟩ := Prod.mk.inj hpull
    obtain ⟨htoken, htokens⟩ := List.forall_mem_cons.mp hs
    rw [Except.ok.inj hcurrent] at htoken
    exact ⟨by rw [← hahead]; exact htokens, fun h => absurd h htoken⟩

lemma EndsOnce.passes (h : p.EndsOnce) {lexemes : List Lexeme} (hpasses : p.Passes lexemes q) :
    q.EndsOnce := by
  induction hpasses with
  | nil => exact h
  | cons hbump _ ih => exact ih (endsOnce_of_pull h.ahead (pull_of_bump hbump))

lemma endsOnce_of_ofSource {d : Dialect} {source : List Char} (h : ofSource d source = .ok p) :
    p.EndsOnce := by
  unfold ofSource at h
  split at h
  · rename_i hpull
    cases h
    exact endsOnce_of_pull (fun token htoken => (Lexer.readable_of_mem_stream htoken).2) hpull
  · cases h

lemma EndsOnce.expect_endOfInput (h : p.EndsOnce) (hkind : p.current.kind = .endOfInput) :
    ∃ q, p.expect .endOfInput = (.ok (), q) := by
  obtain ⟨q, hbump, _⟩ := (h.drained (Lexeme.eq_of_kind_eq hkind rfl)).bump
  exact ⟨q, by rw [expect, if_pos hkind, hbump]⟩

/-! ### Rules one after the other -/

/-- The answers that are these rules. -/
def ruleAnswers (rules : List Rule) : List (Except ParseError (Rule ⊕ Grammar)) :=
  rules.map fun r => .ok (.inl r)

lemma answers_rule_cons (h : p.rule = (.ok r, q)) (calls : List Call) :
    p.answers (.rule :: calls) = .ok (.inl r) :: q.answers calls := by
  rw [answers, call, h]
  rfl

lemma answers_rule_of_error (h : p.rule = (.error error, q)) :
    p.answers [.rule] = [.error error] := by
  rw [answers, call, h]
  rfl

/-- A grammar is read from its first rule on, and ends with the input. -/
lemma exists_rule_of_grammar (h : p.grammar = (.ok g, q)) : ∃ r p', p.rule = (.ok r, p') ∧
    ((p'.current.kind = .endOfInput ∧ g.rules = [r]) ∨
      ∃ rest, p'.grammar = (.ok rest, q) ∧ g.rules = r :: rest.rules) := by
  rw [grammar_eq] at h
  obtain ⟨r, p', hr, h⟩ := andThen_eq_ok_iff.mp h
  refine ⟨r, p', hr, ?_⟩
  split at h
  · rename_i hkind
    cases h
    exact .inl ⟨hkind, rfl⟩
  · obtain ⟨rest, hrest, rfl⟩ := andMap_eq_ok_iff.mp h
    exact .inr ⟨rest, hrest, rfl⟩

lemma answers_of_grammar (h : p.grammar = (.ok g, q)) : ∃ position : Position,
    p.answers (List.replicate (g.rules.length + 1) .rule) =
      ruleAnswers g.rules ++ [.error (.unexpectedToken .identifier .endOfInput position)] := by
  fun_induction grammar p generalizing g with
  | case1 => cases (Prod.mk.inj h).1
  | case2 p r p' hr hkind =>
    have hnone : p'.current.lexeme.part? = none := by
      rw [Lexeme.eq_of_kind_eq (b := .endOfInput) hkind rfl]
      rfl
    have hend := rule_of_part?_eq_none hnone
    rw [unexpected, hkind] at hend
    cases h
    exact ⟨q.current.position,
      (answers_rule_cons hr [.rule]).trans (congrArg _ (answers_rule_of_error hend))⟩
  | case3 p r p' hr hkind ih =>
    obtain ⟨rest, hrest, rfl⟩ := andMap_eq_ok_iff.mp h
    obtain ⟨position, hanswers⟩ := ih hrest
    exact ⟨position, (answers_rule_cons hr _).trans (congrArg _ hanswers)⟩

lemma answers_of_grammar_error (h : p.grammar = (.error error, q)) : ∃ rules : List Rule,
    p.answers (List.replicate (rules.length + 1) .rule) = ruleAnswers rules ++ [.error error] := by
  fun_induction grammar p with
  | case1 p first p' hr =>
    cases h
    exact ⟨[], answers_rule_of_error hr⟩
  | case2 => cases (Prod.mk.inj h).1
  | case3 p r p' hr hkind ih =>
    rcases hrest : p'.grammar with ⟨rest | rest, last⟩
    · rw [hrest] at h
      cases h
      obtain ⟨rules, hanswers⟩ := ih hrest
      exact ⟨r :: rules, (answers_rule_cons hr _).trans (congrArg _ hanswers)⟩
    · rw [hrest] at h
      cases h

end Parser

/-! ### Sources of one rule -/

variable {d : Dialect} {source : List Char} {r : Rule}

lemma Rule.parse_of_ok {p : Parser} (h : Parser.ofSource d source = .ok p) :
    Rule.parse d source =
      (Parser.andThen p.rule fun r p => Parser.andMap (p.expect .endOfInput) fun () => r).1 := by
  rw [parse, h]
  rfl

lemma Rule.parse_of_error {error : ParseError} (h : Parser.ofSource d source = .error error) :
    Rule.parse d source = .error error := by
  rw [parse, h]
  rfl

lemma Rule.parse_eq_ok_iff :
    Rule.parse d source = .ok r ↔ ∃ g, Grammar.parse d source = .ok g ∧ g.rules = [r] := by
  cases hp : Parser.ofSource d source with
  | error error => simp [parse_of_error hp, Grammar.parse_of_error hp]
  | ok p =>
    rw [parse_of_ok hp, Grammar.parse_of_ok hp]
    constructor
    · intro h
      obtain ⟨_, p', hr, h⟩ := Parser.andThen_eq_ok_iff.mp (Prod.ext h rfl)
      obtain ⟨⟨⟩, hexpect, rfl⟩ := Parser.andMap_eq_ok_iff.mp h
      have hkind : p'.current.kind = .endOfInput := by
        by_contra hkind
        rw [Parser.expect, if_neg hkind] at hexpect
        cases hexpect
      refine ⟨.single _, ?_, rfl⟩
      rw [Parser.grammar_eq, hr]
      exact congrArg Prod.fst (if_pos hkind)
    · rintro ⟨g, hg, hrules⟩
      obtain ⟨_, p', hr, ⟨hkind, hsingle⟩ | ⟨rest, _, hcons⟩⟩ :=
        Parser.exists_rule_of_grammar (Prod.ext hg rfl)
      · cases hrules.symm.trans hsingle
        -- The end of the input is passed like a token, which no error of the lexer prevents.
        have hends := (Parser.endsOnce_of_ofSource hp).passes (Parser.passes_rule hr).1
        obtain ⟨q, hexpect⟩ := hends.expect_endOfInput hkind
        rw [hr]
        change (Parser.andMap (p'.expect .endOfInput) fun () => r).1 = .ok r
        rw [hexpect]
        rfl
      · exact absurd (List.cons.inj (hcons.symm.trans hrules)).2 rest.rules_ne_nil

/-- Where a second rule begins the input should have ended. -/
lemma Rule.parse_of_second {g : Grammar} {first second : Rule} {others : List Rule}
    (h : Grammar.parse d source = .ok g) (hrules : g.rules = first :: second :: others) :
    ∃ (before : List Token) (token : Token) (after : Lexer),
      (Lexer.ofSource d source).Yields (before ++ [token]) after ∧
      before.map Token.lexeme = first.lexemes d.concatenation.isSome ∧
      token.lexeme = .identifier second.name ∧
      Rule.parse d source =
        .error (.unexpectedToken .endOfInput .identifier token.position) := by
  cases hp : Parser.ofSource d source with
  | error error =>
    rw [Grammar.parse_of_error hp] at h
    cases h
  | ok p =>
    rw [Grammar.parse_of_ok hp] at h
    obtain ⟨_, p', hr, ⟨_, hsingle⟩ | ⟨rest, hrest, hcons⟩⟩ :=
      Parser.exists_rule_of_grammar (Prod.ext h rfl)
    · cases hrules.symm.trans hsingle
    obtain ⟨rfl, hothers⟩ := List.cons.inj (hrules.symm.trans hcons)
    obtain ⟨hseparated, _, hfollows⟩ := Parser.follows_of_ofSource hp
    have hpasses := (Parser.passes_rule hr).1
    have hfirst : p.current.lexeme = .identifier first.name := (Parser.passes_cons_iff.mp hpasses).1
    have hsecond : p'.current.lexeme = .identifier second.name := by
      have hpasses' := (Parser.passes_grammar hrest).1
      rw [Grammar.lexemes, ← hothers] at hpasses'
      exact (Parser.passes_cons_iff.mp hpasses').1
    obtain ⟨hd, hfollows⟩ := hfollows (by rw [hfirst]; rfl)
    have hlexemes : .endOfInput ∉ first.lexemes p.separated := fun hmem => by
      apply endOfInput_not_mem_lexemes g p.separated
      rw [Grammar.lexemes, hrules]
      exact List.mem_append_left _ hmem
    -- The parser has moved over the first rule, so that it looks at what is yielded next.
    obtain ⟨before, next, hyields, hbefore, after, hnext, _⟩ := hpasses.yields hd hfollows hlexemes
    refine ⟨before, p'.current, after, hyields.append (.cons hnext .nil), ?_, hsecond, ?_⟩
    · rw [hbefore, hseparated]
    · have hkind : p'.current.kind = .identifier := by rw [Token.kind, hsecond]; rfl
      rw [parse_of_ok hp, hr]
      change (Parser.andMap (p'.expect .endOfInput) fun () => first).1 = _
      rw [Parser.expect, if_neg (by rw [hkind]; decide), Parser.unexpected, hkind]
      rfl

/-- Reading rule by rule is reading the grammar. Where a grammar is read its rules are what single calls answer
with, and then that no rule begins at the end of the input; where there is an error it is the answer after
some rules. A source of one rule is a grammar of that rule alone, and if the grammar has more of them the first
token of the second rule is where the input should have ended. -/
theorem rule_by_rule (d : Dialect) (source : List Char) :
    (∀ p : Parser, Parser.ofSource d source = .ok p →
      (∀ g : Grammar, p.grammar.1 = .ok g → ∃ position : Position,
        p.answers (List.replicate (g.rules.length + 1) .rule) =
          Parser.ruleAnswers g.rules ++ [.error (.unexpectedToken .identifier .endOfInput position)]) ∧
      ∀ error : ParseError, p.grammar.1 = .error error → ∃ rules : List Rule,
        p.answers (List.replicate (rules.length + 1) .rule) =
          Parser.ruleAnswers rules ++ [.error error]) ∧
    (∀ r : Rule, Rule.parse d source = .ok r ↔
      ∃ g : Grammar, Grammar.parse d source = .ok g ∧ g.rules = [r]) ∧
    ∀ (g : Grammar) (first second : Rule) (others : List Rule), Grammar.parse d source = .ok g →
      g.rules = first :: second :: others → ∃ (before : List Token) (token : Token) (after : Lexer),
        (Lexer.ofSource d source).Yields (before ++ [token]) after ∧
        before.map Token.lexeme = first.lexemes d.concatenation.isSome ∧
        token.lexeme = .identifier second.name ∧
        Rule.parse d source =
          .error (.unexpectedToken .endOfInput .identifier token.position) :=
  ⟨fun _ _ => ⟨fun _ hg => Parser.answers_of_grammar (Prod.ext hg rfl),
    fun _ hg => Parser.answers_of_grammar_error (Prod.ext hg rfl)⟩,
    fun _ => Rule.parse_eq_ok_iff, fun _ _ _ _ => Rule.parse_of_second⟩

def twoRules : List Char :=
  "a ::= b\nc ::= d".toList

theorem rule_by_rule_twoRules : ∃ (p : Parser) (g : Grammar) (last second : Position),
    Parser.ofSource .bnf twoRules = .ok p ∧ p.grammar.1 = .ok g ∧
      p.answers [.rule, .rule, .rule] = Parser.ruleAnswers g.rules ++
        [.error (.unexpectedToken .identifier .endOfInput last)] ∧
      Rule.parse .bnf twoRules =
        .error (.unexpectedToken .endOfInput .identifier second) := by
  have hlength : (Grammar.parse .bnf twoRules).map (fun g => g.rules.length) = .ok 2 := by
    decide +kernel
  obtain ⟨hcalls, _, hparse⟩ := rule_by_rule .bnf twoRules
  cases hp : Parser.ofSource .bnf twoRules with
  | error error =>
    rw [Grammar.parse_of_error hp] at hlength
    cases hlength
  | ok p =>
    have hgrammar := Grammar.parse_of_ok hp
    rw [hgrammar] at hlength
    cases hg : p.grammar.1 with
    | error error =>
      rw [hg] at hlength
      cases hlength
    | ok g =>
      rw [hg] at hlength
      have hlength : g.rules.length = 2 := Except.ok.inj hlength
      obtain ⟨first, second, hrules⟩ := List.length_eq_two.mp hlength
      obtain ⟨last, hanswers⟩ := (hcalls p hp).1 g hg
      obtain ⟨_, token, _, _, _, _, herror⟩ := hparse g first second [] (hgrammar.trans hg) hrules
      rw [hlength] at hanswers
      exact ⟨p, g, last, token.position, rfl, hg, hanswers, herror⟩

end TypedGrammar
