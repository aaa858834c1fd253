import Mathlib
import TypedGrammar.Proofs.ParserLoop

/-!
# Calls after a lexical error

A lexer stops with an error, and from then on it is pulled as at the end of the input. A parser that fails with
it keeps the token that it looks at, which may be a name left over from the middle of a rule. A later call takes
that name for the beginning of a rule, and still fails, at the end of the input: there is no token ahead with
which a rule could go on, and no error that the lexer could have again.
-/

namespace TypedGrammar

/-- The error is one of the lexer. -/
def ParseError.IsLexical (error : ParseError) : Prop :=
  ∃ lexError, error = .lex lexError

namespace Parser

/-- Whatever is pulled is the end of the input. -/
def Drained (p : Parser) : Prop :=
  ∃ position, p.ahead = ⟨[], .endOfInput position⟩

/-- If the parser failed with an error of its lexer, it is drained. -/
def Drains {α : Type} : Except ParseError α × Parser → Prop
  | (.ok _, _) => True
  | (.error error, q) => error.IsLexical → q.Drained

/-- The parser fails over a token that is not expected, and is drained. -/
def Refused {α : Type} (x : Except ParseError α × Parser) : Prop :=
  (∃ expected found position, x.1 = .error (.unexpectedToken expected found position)) ∧ x.2.Drained

variable {α β : Type} {p q : Parser} {x : Except ParseError α × Parser}

/-! ### Failing with an error of the lexer -/

lemma not_isLexical_unexpected (p : Parser) (expected : TokenKind) :
    ¬ (p.unexpected expected).IsLexical :=
  nofun

lemma Drains.andThen (h : Drains x) {next : α → Parser → Except ParseError β × Parser}
    (hnext : ∀ a q, Drains (next a q)) : Drains (Parser.andThen x next) := by
  obtain ⟨error | a, q⟩ := x
  · exact h
  · exact hnext a q

lemma Drains.andMap (h : Drains x) (f : α → β) : Drains (Parser.andMap x f) := by
  obtain ⟨error | a, q⟩ := x
  · exact h
  · trivial

lemma drains_unexpected (p : Parser) (expected : TokenKind) :
    Drains ((.error (p.unexpected expected), p) : Except ParseError α × Parser) :=
  fun h => absurd h (p.not_isLexical_unexpected expected)

/-- An error is the last thing in a stream. -/
lemma bump_drains (p : Parser) : Drains p.bump := by
  unfold bump TokenStream.pull
  rcases p.ahead with ⟨_ | ⟨token, tokens⟩, position | ⟨error, location⟩⟩
  · trivial
  · exact fun _ => ⟨location, rfl⟩
  · trivial
  · trivial

lemma expect_drains (p : Parser) (kind : TokenKind) : Drains (p.expect kind) := by
  unfold expect
  split
  · exact p.bump_drains
  · exact p.drains_unexpected kind

/-- The parts end with a failed move, an unexpected token or a result. -/
lemma parts_drains (p : Parser) : Drains p.parts := by
  fun_induction parts p with
  | case1 => trivial
  | case2 p part _ error q hbump =>
    have h := p.bump_drains
    rwa [hbump] at h
  | case3 _ part _ q _ _ _ error r hbump =>
    have h := q.bump_drains
    rwa [hbump] at h
  | case4 _ part _ _ _ _ _ r _ _ ih => exact ih.andMap _
  | case5 _ part _ _ _ _ _ r => exact r.drains_unexpected _
  | case6 => trivial
  | case7 p part _ q _ _ ih => exact ih.andMap _

lemma alternative_drains (p : Parser) : Drains p.alternative := by
  unfold alternative
  split
  · exact p.bump_drains.andMap _
  · exact p.parts_drains

lemma definition_drains (p : Parser) : Drains p.definition := by
  fun_induction definition p with
  | case1 p error q ha =>
    have h := p.alternative_drains
    rwa [ha] at h
  | case2 p a q _ _ error r hbump =>
    have h := q.bump_drains
    rwa [hbump] at h
  | case3 p a q _ _ r _ ih => exact ih.andMap _
  | case4 => trivial

lemma rule_drains (p : Parser) : Drains p.rule := by
  unfold rule
  split
  · refine p.bump_drains.andThen fun _ q => ?_
    refine (q.expect_drains _).andThen fun _ q => ?_
    refine q.definition_drains.andThen fun definition q => ?_
    exact (q.expect_drains _).andMap _
  · exact p.drains_unexpected _

lemma grammar_drains (p : Parser) : Drains p.grammar := by
  fun_induction grammar p with
  | case1 p error q hr =>
    have h := p.rule_drains
    rwa [hr] at h
  | case2 => trivial
  | case3 p r q _ _ ih => exact ih.andMap _

lemma call_drains (p : Parser) (c : Call) : Drains (p.call c) := by
  cases c with
  | rule => exact p.rule_drains.andMap _
  | grammar => exact p.grammar_drains.andMap _

/-! ### Calls on a drained parser -/

lemma Refused.andThen (h : Refused x) (next : α → Parser → Except ParseError β × Parser) :
    Refused (Parser.andThen x next) := by
  obtain ⟨result, q⟩ := x
  obtain ⟨⟨expected, found, position, rfl⟩, hq⟩ := h
  exact ⟨⟨expected, found, position, rfl⟩, hq⟩

lemma Refused.andMap (h : Refused x) (f : α → β) : Refused (Parser.andMap x f) := by
  obtain ⟨result, q⟩ := x
  obtain ⟨⟨expected, found, position, rfl⟩, hq⟩ := h
  exact ⟨⟨expected, found, position, rfl⟩, hq⟩

lemma Drained.refused_unexpected (h : p.Drained) (expected : TokenKind) :
    Refused ((.error (p.unexpected expected), p) : Except ParseError α × Parser) :=
  ⟨⟨expected, _, _, rfl⟩, h⟩

/-- A drained parser can move, to the end of the input. -/
lemma Drained.bump (h : p.Drained) :
    ∃ q, p.bump = (.ok (), q) ∧ q.current.kind = .endOfInput ∧ q.Drained := by
  obtain ⟨position, hahead⟩ := h
  refine ⟨⟨⟨.endOfInput, position⟩, ⟨[], .endOfInput position⟩, p.separated⟩, ?_, rfl, position,
    rfl⟩
  rw [Parser.bump, hahead]
  rfl

lemma Drained.expect_refused (h : p.Drained) {kind : TokenKind} (hkind : p.current.kind ≠ kind) :
    Refused (p.expect kind) := by
  rw [Parser.expect, if_neg hkind]
  exact h.refused_unexpected kind

/-- A name that is left over is not followed by what makes it the beginning of a rule. -/
lemma Drained.rule_refused (h : p.Drained) : Refused p.rule := by
  unfold Parser.rule
  split
  · obtain ⟨q, hbump, hcurrent, hq⟩ := h.bump
    rw [hbump]
    have hassign : q.current.kind ≠ .ruleAssign := by simp [hcurrent]
    exact (hq.expect_refused hassign).andThen _
  · exact h.refused_unexpected .identifier

lemma Drained.grammar_refused (h : p.Drained) : Refused p.grammar := by
  rw [grammar_eq]
  exact h.rule_refused.andThen _

lemma Drained.call_refused (h : p.Drained) (c : Call) : Refused (p.call c) := by
  cases c with
  | rule => exact h.rule_refused.andMap _
  | grammar => exact h.grammar_refused.andMap _

/-- Every call leaves a drained parser drained. -/
lemma Drained.answers_refused (h : p.Drained) (calls : List Call) :
    ∀ answer ∈ p.answers calls,
      ∃ expected found position, answer = .error (.unexpectedToken expected found position) := by
  induction calls generalizing p with
  | nil => exact nofun
  | cons c calls ih =>
    obtain ⟨hfirst, hq⟩ := h.call_refused c
    exact List.forall_mem_cons.mpr ⟨hfirst, ih hq⟩

/-! ### Runs of calls -/

lemma drained_of_call {c : Call} {error : LexError} (h : (p.call c).1 = .error (.lex error)) :
    (p.call c).2.Drained := by
  have hdrains := p.call_drains c
  rcases hcall : p.call c with ⟨result, q⟩
  rw [hcall] at h hdrains
  subst h
  exact hdrains ⟨error, rfl⟩

/-- Once a call has failed with an error of the lexer no call succeeds or fails with such an error again: every
one after it fails over a token that is not expected. -/
theorem answers_after_lex {calls : List Call} {error : LexError}
    {before after : List (Except ParseError (Rule ⊕ Grammar))}
    (h : p.answers calls = before ++ .error (.lex error) :: after) :
    ∀ answer ∈ after,
      ∃ expected found position, answer = .error (.unexpectedToken expected found position) := by
  induction before generalizing p calls with
  | nil =>
    cases calls with
    | nil => cases h
    | cons c calls =>
      -- This is the call that fails, and it leaves the parser drained.
      obtain ⟨hfirst, hrest⟩ := List.cons.inj h
      rw [← hrest]
      exact (drained_of_call hfirst).answers_refused calls
  | cons first before ih =>
    cases calls with
    | nil => cases h
    | cons c calls => exact ih (List.cons.inj h).2

/-- The second rule ends at its name, which is left over. -/
def leftOver : List Char :=
  "digit ::= one\ntwo ?".toList

theorem answers_after_lex_leftOver :
    ∃ p, ofSource .bnf leftOver = .ok p ∧
      (p.answers [.rule, .rule, .grammar, .rule])[1]? =
        some (.error (.lex ⟨.illegalCharacter '?', ⟨18, 2, 5⟩⟩)) ∧
      ∀ answer ∈ (p.answers [.rule, .rule, .grammar, .rule]).drop 2,
        ∃ expected found position, answer = .error (.unexpectedToken expected found position) := by
  have hlex : (ofSource .bnf leftOver).map (fun p => ((p.call .rule).2.call .rule).1) =
      .ok (.error (.lex ⟨.illegalCharacter '?', ⟨18, 2, 5⟩⟩)) := by decide +kernel
  cases hp : ofSource .bnf leftOver with
  | error error =>
    rw [hp] at hlex
    cases hlex
  | ok p =>
    rw [hp] at hlex
    have hanswers : p.answers [.rule, .rule, .grammar, .rule] =
        [(p.call .rule).1] ++ .error (.lex ⟨.illegalCharacter '?', ⟨18, 2, 5⟩⟩) ::
          ((p.call .rule).2.call .rule).2.answers [.grammar, .rule] := by
      rw [← Except.ok.inj hlex]
      rfl
    exact ⟨p, rfl, congrArg (·[1]?) hanswers, answers_after_lex hanswers⟩

end Parser

end TypedGrammar
