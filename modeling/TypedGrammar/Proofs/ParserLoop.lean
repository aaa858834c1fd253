import TypedGrammar.Proofs.PulledToken
import TypedGrammar.Proofs.TokenPlace

/-!
# Loops of a parser

A parser that pulls each token when it moves to it, in loops that go on for as long as the tokens ask for it. A
limit stops every loop after so many rounds, and then there is no result. Nothing but the limit would end a loop
over the alternatives of a rule before an empty separator. Still a limit of about twice the length of the source
is never reached: a rule begins with a name, and where a delimiter is empty no name is ever found, since the
delimiter is there before it. Where no delimiter is empty, every round passes a token.
-/

namespace TypedGrammar

/-- A parser that pulls each token from its lexer when it moves to it. -/
structure PullParser where
  lexer : Lexer
  current : Token
  separated : Bool

/-- What a pull parser reads: a result with the parser after it, or nothing if a loop reaches its limit. -/
abbrev Pulling := ExceptT ParseError (StateT PullParser Option)

namespace PullParser

def unexpected (r : PullParser) (expected : TokenKind) : ParseError :=
  .unexpectedToken expected r.current.kind r.current.position

def stopped {α : Type} : Pulling α :=
  ExceptT.mk fun _ => none

section

variable (limit : ℕ)

def bump : Pulling Unit := do
  let r ← get
  let (result, lexer) ← r.lexer.pull limit
  match result with
  | .ok token => set { r with lexer := lexer, current := token }
  | .error error =>
    set { r with lexer := lexer }
    throw (.lex error)

def expect (kind : TokenKind) : Pulling Unit := do
  let r ← get
  if r.current.kind = kind then bump limit else throw (r.unexpected kind)

/-- The parts from here on, one in each round. -/
def parts : ℕ → Pulling (List Part)
  | 0 => stopped
  | rounds + 1 => do
    let r ← get
    match r.current.lexeme.part? with
    | none => return []
    | some part =>
      bump limit
      if r.separated then
        if (← get).current.kind = .sequenceSeparator then
          bump limit
          let r ← get
          if r.current.lexeme.part?.isSome then
            return part :: (← parts rounds)
          else
            throw (r.unexpected .identifier)
        else
          return [part]
      else
        return part :: (← parts rounds)

def alternative : Pulling Alternative := do
  if (← get).current.kind = .epsilonMarker then
    bump limit
    return [.epsilon]
  else
    parts limit limit

/-- The alternatives from here on, one in each round. -/
def definition : ℕ → Pulling Definition
  | 0 => stopped
  | rounds + 1 => do
    let a ← alternative limit
    if (← get).current.kind = .alternativeSeparator then
      bump limit
      return .cons a (← definition rounds)
    else
      return .single a

def rule : Pulling Rule := do
  match (← get).current.lexeme with
  | .identifier name =>
    bump limit
    expect limit .ruleAssign
    let definition ← definition limit limit
    expect limit .ruleTerminator
    return ⟨name, definition⟩
  | _ => throw ((← get).unexpected .identifier)

/-- The rules from here on, one in each round. -/
def grammar : ℕ → Pulling Grammar
  | 0 => stopped
  | rounds + 1 => do
    let r ← rule limit
    if (← get).current.kind = .endOfInput then
      return .single r
    else
      return .cons r (← grammar rounds)

/-- Reads a rule up to the end of the input. -/
def onlyRule : Pulling Rule := do
  let rule ← rule limit
  expect limit .endOfInput
  return rule

/-- A pull parser at the beginning of the source. -/
def ofSource (d : Dialect) (source : List Char) : Option (Except ParseError PullParser) := do
  let (result, lexer) ← (Lexer.ofSource d source).pull limit
  match result with
  | .ok token => return .ok ⟨lexer, token, d.concatenation.isSome⟩
  | .error error => return .error (.lex error)

/-- The grammar that the source writes. -/
def parse (d : Dialect) (source : List Char) : Option (Except ParseError Grammar) := do
  match ← ofSource limit d source with
  | .ok r => return (← (grammar limit limit).run.run r).1
  | .error error => return .error error

/-- The one rule that the source writes. -/
def parseRule (d : Dialect) (source : List Char) : Option (Except ParseError Rule) := do
  match ← ofSource limit d source with
  | .ok r => return (← (onlyRule limit).run.run r).1
  | .error error => return .error error

end

/-! ### Runs -/

section

variable {α β γ : Type} {x : Pulling α} {r after : PullParser} {a : α} {error : ParseError}

lemma run_get (f : PullParser → Pulling β) (r : PullParser) :
    (get >>= f).run.run r = (f r).run.run r := rfl

lemma run_lift {o : Option γ} {c : γ} (ho : o = some c) (f : γ → Pulling β) (r : PullParser) :
    (liftM o >>= f).run.run r = (f c).run.run r := by
  rw [ho]
  rfl

lemma run_bind_ok (hx : x.run.run r = some (.ok a, after)) (f : α → Pulling β) :
    (x >>= f).run.run r = (f a).run.run after := by
  rw [ExceptT.run_bind, StateT.run_bind, hx]
  rfl

lemma run_bind_error (hx : x.run.run r = some (.error error, after)) (f : α → Pulling β) :
    (x >>= f).run.run r = some (.error error, after) := by
  rw [ExceptT.run_bind, StateT.run_bind, hx]
  rfl

lemma run_bind_none (hx : x.run.run r = none) (f : α → Pulling β) : (x >>= f).run.run r = none := by
  rw [ExceptT.run_bind, StateT.run_bind, hx]
  rfl

end

variable {limit : ℕ} {r : PullParser} {p : Parser}

lemma run_bump {token : Token} {after : Lexer} (hpull : r.lexer.pull limit = some (.ok token, after)) :
    (bump limit).run.run r = some (.ok (), { r with lexer := after, current := token }) := by
  rw [bump, run_get, run_lift hpull]
  rfl

lemma run_bump_error {error : LexError} {after : Lexer}
    (hpull : r.lexer.pull limit = some (.error error, after)) :
    (bump limit).run.run r = some (.error (.lex error), { r with lexer := after }) := by
  rw [bump, run_get, run_lift hpull]
  rfl

/-! ### Ends of loops -/

/-- The parser looks at the same token, and the same tokens are ahead of it: fewer than the limit allows for,
as well as the characters ahead. -/
structure Mirrors (limit : ℕ) (r : PullParser) (p : Parser) : Prop where
  current : r.current = p.current
  ahead : r.lexer.stream = p.ahead
  separated : r.separated = p.separated
  delimited : r.lexer.dialect.Delimited
  comment : r.lexer.dialect.comment ≠ some []
  rest_lt : r.lexer.cursor.rest.length < limit
  size_lt : p.size < limit

/-- Reading ends, with the result, at a parser that is related to the one after it. -/
def Ends (R : PullParser → Parser → Prop) {α : Type} (x : Pulling α) (r : PullParser)
    (y : Except ParseError α × Parser) : Prop :=
  ∃ after, x.run.run r = some (y.1, after) ∧ R after y.2

section

variable {R S : PullParser → Parser → Prop} {α β : Type} {x : Pulling α} {f : α → Pulling β} {a : α}
  {y : Except ParseError α × Parser} {z : Except ParseError β × Parser} {error : ParseError}

lemma Ends.pure (h : R r p) (a : α) : Ends R (pure a) r (.ok a, p) :=
  ⟨r, rfl, h⟩

lemma Ends.throw (h : R r p) (error : ParseError) :
    Ends R (throw error : Pulling α) r (.error error, p) :=
  ⟨r, rfl, h⟩

lemma Ends.get {f : PullParser → Pulling β} (h : Ends R (f r) r z) : Ends R (get >>= f) r z := h

lemma Ends.bind (hx : Ends R x r (.ok a, p)) (hf : ∀ after, R after p → Ends R (f a) after z) :
    Ends R (x >>= f) r z := by
  obtain ⟨after, hrun, hafter⟩ := hx
  obtain ⟨last, hlast, hrelated⟩ := hf after hafter
  exact ⟨last, (run_bind_ok hrun f).trans hlast, hrelated⟩

lemma Ends.bind_error (hx : Ends R x r (.error error, p)) :
    Ends R (x >>= f) r (.error error, p) := by
  obtain ⟨after, hrun, hafter⟩ := hx
  exact ⟨after, run_bind_error hrun f, hafter⟩

lemma Ends.andThen {g : α → Parser → Except ParseError β × Parser} (hx : Ends R x r y)
    (hf : ∀ a p after, y = (.ok a, p) → R after p → Ends R (f a) after (g a p)) :
    Ends R (x >>= f) r (Parser.andThen y g) := by
  obtain ⟨error | a, p⟩ := y
  · exact hx.bind_error
  · exact hx.bind fun after => hf a p after rfl

lemma Ends.andMap (hx : Ends R x r y) (g : α → β) :
    Ends R (x >>= fun a => Pure.pure (g a)) r (Parser.andMap y g) := by
  obtain ⟨error | a, p⟩ := y
  · exact hx.bind_error
  · exact hx.bind fun after hafter => Ends.pure hafter _

lemma Ends.mono (hx : Ends R x r y) (h : ∀ {r p}, R r p → S r p) : Ends S x r y := by
  obtain ⟨after, hrun, hafter⟩ := hx
  exact ⟨after, hrun, h hafter⟩

end

lemma Mirrors.unexpected (h : r.Mirrors limit p) (kind : TokenKind) :
    r.unexpected kind = p.unexpected kind := by
  rw [PullParser.unexpected, Parser.unexpected, h.current]

lemma Mirrors.bump (h : r.Mirrors limit p) : Ends (Mirrors limit) (bump limit) r p.bump := by
  obtain ⟨after, hpull, hahead, hdialect, hrest⟩ :=
    Lexer.pull_of_delimited h.comment h.delimited h.rest_lt
  have hdelimited : after.dialect.Delimited := hdialect ▸ h.delimited
  have hcomment : after.dialect.comment ≠ some [] := hdialect ▸ h.comment
  have hrest_lt := Nat.lt_of_le_of_lt hrest h.rest_lt
  have hsize_lt := Nat.lt_of_le_of_lt (Parser.bump_size_le p) h.size_lt
  rw [h.ahead] at hpull hahead
  rw [Parser.bump] at hsize_lt ⊢
  rcases hnext : p.ahead.pull with ⟨error | token, ahead⟩
  · rw [hnext] at hpull hahead hsize_lt
    exact ⟨_, run_bump_error hpull, h.current, hahead, h.separated, hdelimited, hcomment, hrest_lt,
      hsize_lt⟩
  · rw [hnext] at hpull hahead hsize_lt
    exact ⟨_, run_bump hpull, rfl, hahead, h.separated, hdelimited, hcomment, hrest_lt, hsize_lt⟩

lemma Mirrors.expect (h : r.Mirrors limit p) (kind : TokenKind) :
    Ends (Mirrors limit) (expect limit kind) r (p.expect kind) := by
  unfold PullParser.expect Parser.expect
  refine Ends.get ?_
  rw [h.current]
  split
  · exact h.bump
  · rw [h.unexpected]
    exact Ends.throw h _

/-- Every round passes a part. -/
lemma Mirrors.parts {rounds : ℕ} (h : r.Mirrors limit p) (hrounds : p.size < rounds) :
    Ends (Mirrors limit) (parts limit rounds) r p.parts := by
  induction rounds generalizing r p with
  | zero => exact absurd hrounds (Nat.not_lt_zero _)
  | succ rounds ih =>
    refine Ends.get ?_
    rw [h.current, h.separated]
    cases hpart : p.current.lexeme.part? with
    | none =>
      rw [Parser.parts_of_part?_eq_none hpart]
      exact Ends.pure h []
    | some part =>
      rw [Parser.parts_of_part? hpart]
      refine h.bump.andThen fun _ q after hq hafter => ?_
      have hlt := Parser.bump_size_lt hq (Parser.kind_ne_endOfInput_of_part? hpart)
      split
      · refine Ends.get ?_
        rw [hafter.current]
        split
        · rename_i hkind
          refine hafter.bump.andThen fun _ q' last hq' hlast => ?_
          have hlt' := Parser.bump_size_lt hq' (by rw [hkind]; decide)
          refine Ends.get ?_
          rw [hlast.current, hlast.unexpected]
          split
          · exact (ih hlast (by omega)).andMap _
          · exact Ends.throw hlast _
        · exact Ends.pure hafter [part]
      · exact (ih hafter (by omega)).andMap _

lemma Mirrors.alternative (h : r.Mirrors limit p) :
    Ends (Mirrors limit) (alternative limit) r p.alternative := by
  unfold PullParser.alternative Parser.alternative
  refine Ends.get ?_
  rw [h.current]
  split
  · exact h.bump.andMap _
  · exact h.parts h.size_lt

/-- Every round but the last passes a separator. -/
lemma Mirrors.definition {rounds : ℕ} (h : r.Mirrors limit p) (hrounds : p.size < rounds) :
    Ends (Mirrors limit) (definition limit rounds) r p.definition := by
  induction rounds generalizing r p with
  | zero => exact absurd hrounds (Nat.not_lt_zero _)
  | succ rounds ih =>
    rw [Parser.definition_eq]
    refine h.alternative.andThen fun a q after hq hafter => ?_
    have hle : q.size ≤ p.size := by simpa [hq] using Parser.alternative_size_le p
    refine Ends.get ?_
    rw [hafter.current]
    split
    · rename_i hkind
      refine hafter.bump.andThen fun _ q' last hq' hlast => ?_
      have hlt := Parser.bump_size_lt hq' (by rw [hkind]; decide)
      exact (ih hlast (by omega)).andMap _
    · exact Ends.pure hafter _

lemma Mirrors.rule (h : r.Mirrors limit p) : Ends (Mirrors limit) (rule limit) r p.rule := by
  unfold PullParser.rule Parser.rule
  refine Ends.get ?_
  rw [h.current]
  cases p.current.lexeme with
  | identifier name =>
    refine h.bump.andThen fun _ q after _ hafter => ?_
    refine (hafter.expect _).andThen fun _ q after _ hafter => ?_
    refine (hafter.definition hafter.size_lt).andThen fun definition q after _ hafter => ?_
    exact (hafter.expect _).andMap _
  | _ =>
    refine Ends.get ?_
    rw [h.unexpected]
    exact Ends.throw h _

/-- Every round passes a rule. -/
lemma Mirrors.grammar {rounds : ℕ} (h : r.Mirrors limit p) (hrounds : p.size < rounds) :
    Ends (Mirrors limit) (grammar limit rounds) r p.grammar := by
  induction rounds generalizing r p with
  | zero => exact absurd hrounds (Nat.not_lt_zero _)
  | succ rounds ih =>
    rw [Parser.grammar_eq]
    refine h.rule.andThen fun rule q after hq hafter => ?_
    have hlt := Parser.rule_size_lt hq
    refine Ends.get ?_
    rw [hafter.current]
    split
    · exact Ends.pure hafter _
    · exact (ih hafter (by omega)).andMap _

/-! ### Parsers of sources -/

/-- Both parsers look at the same token, with which no rule begins. -/
structure Stalls (r : PullParser) (p : Parser) : Prop where
  current : r.current = p.current
  part? : p.current.lexeme.part? = none

lemma Stalls.rule (h : r.Stalls p) : Ends Stalls (PullParser.rule limit) r p.rule := by
  have hunexpected : r.unexpected .identifier = p.unexpected .identifier := by
    rw [PullParser.unexpected, Parser.unexpected, h.current]
  have hpart := h.part?
  refine Ends.get ?_
  rw [h.current, Parser.rule_of_part?_eq_none hpart]
  cases hlexeme : p.current.lexeme with
  | identifier name =>
    rw [hlexeme] at hpart
    cases hpart
  | _ =>
    refine Ends.get ?_
    rw [hunexpected]
    exact Ends.throw h _

lemma Stalls.grammar (h : r.Stalls p) (rounds : ℕ) :
    Ends Stalls (PullParser.grammar limit (rounds + 1)) r p.grammar := by
  have hrule : Ends Stalls (PullParser.rule limit) r p.rule := h.rule
  rw [Parser.rule_of_part?_eq_none h.part?] at hrule
  rw [Parser.grammar_of_part?_eq_none h.part?]
  exact hrule.bind_error

/-- The same tokens are ahead of both parsers, or neither of them gets past its token. -/
def Agrees (limit : ℕ) (r : PullParser) (p : Parser) : Prop :=
  r.Mirrors limit p ∨ r.Stalls p

lemma Agrees.rule (h : r.Agrees limit p) : Ends (Agrees limit) (PullParser.rule limit) r p.rule := by
  rcases h with h | h
  · exact h.rule.mono .inl
  · exact h.rule.mono .inr

lemma Agrees.grammar (h : r.Agrees limit p) (hlimit : 0 < limit) :
    Ends (Agrees limit) (PullParser.grammar limit limit) r p.grammar := by
  rcases h with h | h
  · exact (h.grammar h.size_lt).mono .inl
  · obtain ⟨rounds, rfl⟩ := Nat.exists_eq_add_one.mpr hlimit
    exact (h.grammar rounds).mono .inr

lemma Agrees.onlyRule (h : r.Agrees limit p) : Ends (Agrees limit) (PullParser.onlyRule limit) r
    (Parser.andThen p.rule fun rule p => Parser.andMap (p.expect .endOfInput) fun () => rule) := by
  unfold PullParser.onlyRule
  rcases h with h | h
  · refine Ends.mono (h.rule.andThen fun rule q after _ hafter => ?_) .inl
    exact (hafter.expect _).andMap _
  · have hrule : Ends Stalls (PullParser.rule limit) r p.rule := h.rule
    rw [Parser.rule_of_part?_eq_none h.part?] at hrule ⊢
    exact hrule.bind_error.mono .inr

variable {d : Dialect} {source : List Char}

/-- A parser at the beginning of the source has no more tokens ahead than the source can hold. -/
lemma size_ofSource_le (h : Parser.ofSource d source = .ok p) : p.size ≤ 2 * source.length + 1 := by
  have hstream : (Lexer.ofSource d source).stream.tokens.length ≤ 2 * source.length + 1 :=
    (Lexer.ofSource d source).length_tokens_stream_le
  unfold Parser.ofSource at h
  split at h
  · rename_i token ahead hpull
    cases h
    unfold TokenStream.pull at hpull
    split at hpull
    · rename_i tokens ending htokens
      cases hpull
      rw [htokens, List.length_cons] at hstream
      simp only [Parser.size]
      split <;> omega
    · rename_i htokens hending
      cases hpull
      simp [Parser.size, htokens, Token.kind, Lexeme.kind]
    · cases hpull
  · cases h

/-- Both parsers are put at the beginning of the source, or neither, for the same error. -/
lemma ofSource_agrees (hcomment : d.comment ≠ some []) (hlimit : 2 * source.length + 1 < limit) :
    (∃ error, ofSource limit d source = some (.error error) ∧
        Parser.ofSource d source = .error error) ∨
      ∃ r p, ofSource limit d source = some (.ok r) ∧ Parser.ofSource d source = .ok p ∧
        r.Agrees limit p := by
  have hrest : source.length < limit := by omega
  cases hp : Parser.ofSource d source with
  | error error =>
    obtain ⟨lexError, rfl, hnext⟩ := Parser.next?_of_ofSource hp
    have hpull := Lexer.pull_of_next? (l := Lexer.ofSource d source) hcomment hrest (Prod.ext hnext rfl)
    exact .inl ⟨_, by rw [ofSource, hpull]; rfl, rfl⟩
  | ok p =>
    obtain ⟨hseparated, ⟨after, hnext⟩, hpart⟩ := Parser.follows_of_ofSource hp
    have hpull := Lexer.pull_of_next? (l := Lexer.ofSource d source) hcomment hrest hnext
    refine .inr ⟨⟨after, p.current, d.concatenation.isSome⟩, p, ?_, rfl, ?_⟩
    · rw [ofSource, hpull]
      rfl
    by_cases hd : d.Delimited
    · obtain ⟨next, hfirst, hstream, hdialect, hle⟩ :=
        Lexer.pull_of_delimited (l := Lexer.ofSource d source) hcomment hd hrest
      obtain ⟨_, rfl⟩ := Prod.mk.inj (Option.some.inj (hpull.symm.trans hfirst))
      have hahead : (Lexer.ofSource d source).stream.pull.2 = p.ahead := by
        unfold Parser.ofSource at hp
        split at hp
        · rename_i hstream
          cases hp
          rw [hstream]
        · cases hp
      exact .inl ⟨rfl, hstream.trans hahead, hseparated.symm, hdialect ▸ hd, hdialect ▸ hcomment,
        Nat.lt_of_le_of_lt hle hrest, Nat.lt_of_le_of_lt (size_ofSource_le hp) hlimit⟩
    · exact .inr ⟨rfl, Option.not_isSome_iff_eq_none.mp fun h => hd (hpart h).1⟩

end PullParser

/-! ### Calls on one parser -/

namespace Parser

/-- What a parser can be asked for, again and again. -/
inductive Call where
  | rule
  | grammar

def call (p : Parser) : Call → Except ParseError (Rule ⊕ Grammar) × Parser
  | .rule => andMap p.rule .inl
  | .grammar => andMap p.grammar .inr

/-- The answers to calls one after the other. -/
def answers (p : Parser) : List Call → List (Except ParseError (Rule ⊕ Grammar))
  | [] => []
  | c :: calls => (p.call c).1 :: (p.call c).2.answers calls

end Parser

namespace PullParser

def call (limit : ℕ) : Parser.Call → Pulling (Rule ⊕ Grammar)
  | .rule => return Sum.inl (← rule limit)
  | .grammar => return Sum.inr (← grammar limit limit)

/-- The answers to calls one after the other, if all of them end. -/
def answers (limit : ℕ) (r : PullParser) :
    List Parser.Call → Option (List (Except ParseError (Rule ⊕ Grammar)))
  | [] => some []
  | c :: calls => do
    let (answer, r) ← (call limit c).run.run r
    return answer :: (← r.answers limit calls)

/-- The answers to calls on a parser of the source. -/
def answersFrom (limit : ℕ) (d : Dialect) (source : List Char) (calls : List Parser.Call) :
    Option (Except ParseError (List (Except ParseError (Rule ⊕ Grammar)))) := do
  match ← ofSource limit d source with
  | .ok r => return .ok (← r.answers limit calls)
  | .error error => return .error error

variable {limit : ℕ} {r : PullParser} {p : Parser} {d : Dialect} {source : List Char}

lemma Agrees.call (h : r.Agrees limit p) (hlimit : 0 < limit) (c : Parser.Call) :
    Ends (Agrees limit) (call limit c) r (p.call c) := by
  cases c with
  | rule => exact h.rule.andMap Sum.inl
  | grammar => exact (h.grammar hlimit).andMap Sum.inr

lemma Agrees.answers (h : r.Agrees limit p) (hlimit : 0 < limit) (calls : List Parser.Call) :
    r.answers limit calls = some (p.answers calls) := by
  induction calls generalizing r p with
  | nil => rfl
  | cons c calls ih =>
    obtain ⟨after, hrun, hafter⟩ := h.call hlimit c
    rw [PullParser.answers, hrun, Option.bind_eq_bind, Option.bind_some]
    dsimp only
    rw [ih hafter]
    rfl

/-- Parsing ends: with a limit of about twice the length of the source, which no loop reaches, a grammar is
parsed, or a single rule, and any calls on one parser are answered, and with the results that the parser has
from the stream of all tokens. -/
theorem parsing_ends (hcomment : d.comment ≠ some []) (hlimit : 2 * source.length + 1 < limit) :
    parse limit d source = some (Grammar.parse d source) ∧
    parseRule limit d source = some (Rule.parse d source) ∧
    ∀ calls, answersFrom limit d source calls =
      some ((Parser.ofSource d source).map fun p => p.answers calls) := by
  have hpos : 0 < limit := Nat.zero_lt_of_lt hlimit
  rcases ofSource_agrees hcomment hlimit with ⟨error, hr, hp⟩ | ⟨r, p, hr, hp, hagrees⟩
  · rw [parse, parseRule, Grammar.parse, Rule.parse, hr, hp]
    refine ⟨rfl, rfl, fun calls => ?_⟩
    rw [answersFrom, hr]
    rfl
  · obtain ⟨_, hgrammar, _⟩ := hagrees.grammar hpos
    obtain ⟨_, hrule, _⟩ := hagrees.onlyRule
    refine ⟨?_, ?_, fun calls => ?_⟩
    · rw [parse, Grammar.parse, hr, hp, Option.bind_eq_bind, Option.bind_some]
      dsimp only
      rw [hgrammar]
      rfl
    · rw [parseRule, Rule.parse, hr, hp, Option.bind_eq_bind, Option.bind_some]
      dsimp only
      rw [hrule]
      rfl
    · rw [answersFrom, hr, hp, Option.bind_eq_bind, Option.bind_some]
      dsimp only
      rw [hagrees.answers hpos calls]
      rfl

/-- Nothing is written between alternatives. -/
def unseparated : Dialect :=
  { Dialect.bnf with alternative := [] }

theorem parsing_ends_unseparated : unseparated.comment ≠ some [] ∧ 2 * "a".toList.length + 1 < 4 ∧
    (∀ n, ((Lexer.ofSource unseparated "a".toList).after n).next?.1 =
      some (.ok ⟨.alternativeSeparator, .start⟩)) ∧
    parse 4 unseparated "a".toList =
      some (.error (.unexpectedToken .identifier .alternativeSeparator .start)) := by
  have hcomment : unseparated.comment ≠ some [] := by decide
  have hlimit : 2 * "a".toList.length + 1 < 4 := by decide
  have hparse : Grammar.parse unseparated "a".toList =
      .error (.unexpectedToken .identifier .alternativeSeparator .start) := by decide +kernel
  refine ⟨hcomment, hlimit, ?_, ?_⟩
  · exact Lexer.next?_after_of_keyword? rfl (by simp [Lexer.ofSource]) (by decide) (by decide)
  · rw [(parsing_ends hcomment hlimit).1, hparse]

/-! ### Loops without an end -/

/-- With an empty mark of comments no token is ever reached. -/
theorem parse_eq_none (hcomment : d.comment = some []) (limit : ℕ) (source : List Char) :
    parse limit d source = none := by
  have hpull : (Lexer.ofSource d source).pull limit = none := by
    rw [Lexer.pull, if_neg (by simp [Lexer.ofSource])]
    exact congrArg (Option.map _) (Dialect.skipRounds_eq_none hcomment limit none _)
  rw [parse, ofSource, hpull]
  rfl

lemma run_alternative (h : r.current.kind = .alternativeSeparator) (hlimit : 0 < limit) :
    (alternative limit).run.run r = some (.ok [], r) := by
  obtain ⟨rounds, rfl⟩ := Nat.exists_eq_add_one.mpr hlimit
  have hpart : r.current.lexeme.part? = none := by
    unfold Token.kind at h
    cases hlexeme : r.current.lexeme <;> simp_all [Lexeme.kind, Lexeme.part?]
  rw [alternative, run_get, if_neg (by rw [h]; decide), parts, run_get, hpart]
  rfl

/-- A definition would never end where the separator of alternatives is pulled again and again. -/
theorem definition_eq_none (hcurrent : r.current.kind = .alternativeSeparator) (hlimit : 0 < limit)
    (hpull : r.lexer.pull limit = some (.ok r.current, r.lexer)) (rounds : ℕ) :
    (definition limit rounds).run.run r = none := by
  induction rounds with
  | zero => rfl
  | succ rounds ih =>
    rw [definition, run_bind_ok (run_alternative hcurrent hlimit), run_get, if_pos hcurrent,
      run_bind_ok (run_bump hpull), run_bind_none ih]

end PullParser

end TypedGrammar
