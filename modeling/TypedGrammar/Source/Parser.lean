import TypedGrammar.Grammar.Basic
import TypedGrammar.Source.TokenStream

/-!
# The parser

Recursive descent over a token stream, one function per nonterminal:

```text
grammar     := rule+
rule        := identifier ruleAssign definition ruleTerminator
definition  := alternative (alternativeSeparator alternative)*
alternative := epsilonMarker | part*
part        := quotedLiteral | identifier
```

In dialects with a concatenation symbol a `sequenceSeparator` stands between any two parts. Every
function returns its result with the parser after it, also when it fails: the current token is
then the one at the failure.
-/

namespace TypedGrammar

/-- Why source is no grammar. -/
inductive ParseError where
  | lex (error : LexError)
  | unexpectedToken (expected found : TokenKind) (position : Position)
  deriving DecidableEq, Repr

def ParseError.message : ParseError → String
  | .lex error => error.message
  | .unexpectedToken expected found position =>
    String.join ["expected ", expected.text, ", found ", found.text, " at ", position.text]

/-- The part that the lexeme is, if it is one. -/
def Lexeme.part? : Lexeme → Option Part
  | .identifier name => some (.reference name)
  | .quotedLiteral text => some (.literal text)
  | _ => none

/-- A reader of rules: the token it looks at and those to come. -/
structure Parser where
  current : Token
  ahead : TokenStream
  /-- Whether a separator stands between the parts of an alternative. -/
  separated : Bool

namespace Parser

/-- A parser at the beginning of the source. -/
def ofSource (d : Dialect) (source : List Char) : Except ParseError Parser :=
  match (Lexer.ofSource d source).stream.pull with
  | (.ok token, ahead) => .ok ⟨token, ahead, d.concatenation.isSome⟩
  | (.error error, _) => .error (.lex error)

/-- The error that the current token is not of the expected kind. -/
def unexpected (p : Parser) (expected : TokenKind) : ParseError :=
  .unexpectedToken expected p.current.kind p.current.position

/-- Passes on a result, with the parser after it, to what reads on from there. -/
def andThen {α β : Type} (x : Except ParseError α × Parser)
    (next : α → Parser → Except ParseError β × Parser) : Except ParseError β × Parser :=
  match x with
  | (.ok a, p) => next a p
  | (.error error, p) => (.error error, p)

def andMap {α β : Type} (x : Except ParseError α × Parser) (f : α → β) :
    Except ParseError β × Parser :=
  (x.1.map f, x.2)

/-- Moves to the next token. -/
def bump (p : Parser) : Except ParseError Unit × Parser :=
  match p.ahead.pull with
  | (.ok token, ahead) => (.ok (), { p with current := token, ahead := ahead })
  | (.error error, ahead) => (.error (.lex error), { p with ahead := ahead })

/-- Moves past a token of the given kind. -/
def expect (p : Parser) (kind : TokenKind) : Except ParseError Unit × Parser :=
  if p.current.kind = kind then p.bump else (.error (p.unexpected kind), p)

/-- Number of tokens still to be passed. -/
def size (p : Parser) : Nat :=
  p.ahead.tokens.length + if p.current.kind = .endOfInput then 0 else 1

theorem bump_size_lt {p q : Parser} (h : p.bump = (.ok (), q))
    (hp : p.current.kind ≠ .endOfInput) : q.size < p.size := by
  unfold bump TokenStream.pull at h
  unfold size
  split at h
  · rename_i token ahead hpull
    cases h
    split at hpull
    · rename_i rest ending htokens
      cases hpull
      simp only [htokens, List.length_cons, if_neg hp]
      split <;> omega
    · rename_i htokens hending
      cases hpull
      rw [htokens, if_neg hp]
      simp [Token.kind, Lexeme.kind]
    · cases hpull
  · cases h

theorem bump_size_le (p : Parser) : p.bump.2.size ≤ p.size := by
  unfold bump TokenStream.pull size
  split
  · rename_i token ahead hpull
    split at hpull
    · rename_i rest ending htokens
      cases hpull
      simp only [htokens, List.length_cons]
      split <;> split <;> omega
    · rename_i htokens hending
      cases hpull
      simp [Token.kind, Lexeme.kind]
    · cases hpull
  · rename_i error ahead hpull
    split at hpull
    · cases hpull
    · cases hpull
    · rename_i htokens hending
      cases hpull
      simp [htokens]

theorem kind_ne_endOfInput_of_part? {token : Token} {part : Part}
    (h : token.lexeme.part? = some part) : token.kind ≠ .endOfInput := by
  unfold Token.kind
  cases hl : token.lexeme <;> simp_all [Lexeme.part?, Lexeme.kind]

def parts (p : Parser) : Except ParseError (List Part) × Parser :=
  match _hpart : p.current.lexeme.part? with
  | none => (.ok [], p)
  | some part =>
    match _hq : p.bump with
    | (.error error, q) => (.error error, q)
    | (.ok (), q) =>
      if p.separated then
        if _hsep : q.current.kind = .sequenceSeparator then
          match _hr : q.bump with
          | (.error error, r) => (.error error, r)
          | (.ok (), r) =>
            if r.current.lexeme.part?.isSome then andMap r.parts (part :: ·)
            else (.error (r.unexpected .identifier), r)
        else
          (.ok [part], q)
      else
        andMap q.parts (part :: ·)
termination_by p.size
decreasing_by
  · have hlt := bump_size_lt _hq (kind_ne_endOfInput_of_part? _hpart)
    have hle := bump_size_lt _hr (by rw [_hsep]; decide)
    omega
  · exact bump_size_lt _hq (kind_ne_endOfInput_of_part? _hpart)

theorem parts_size_le (p : Parser) : p.parts.2.size ≤ p.size := by
  fun_induction parts p with
  | case1 => exact Nat.le_refl _
  | case2 p part hpart error q hq =>
    have := bump_size_le p
    rw [hq] at this
    exact this
  | case3 p part hpart q hq hsep hkind error r hr =>
    have hpq := bump_size_le p
    have hqr := bump_size_le q
    rw [hq] at hpq
    rw [hr] at hqr
    exact Nat.le_trans hqr hpq
  | case4 p part hpart q hq hsep hkind r hr hstart ih =>
    have hpq := bump_size_le p
    have hqr := bump_size_le q
    rw [hq] at hpq
    rw [hr] at hqr
    exact Nat.le_trans ih (Nat.le_trans hqr hpq)
  | case5 p part hpart q hq hsep hkind r hr hstart =>
    have hpq := bump_size_le p
    have hqr := bump_size_le q
    rw [hq] at hpq
    rw [hr] at hqr
    exact Nat.le_trans hqr hpq
  | case6 p part hpart q hq hsep hkind =>
    have hpq := bump_size_le p
    rw [hq] at hpq
    exact hpq
  | case7 p part hpart q hq hsep ih =>
    have hpq := bump_size_le p
    rw [hq] at hpq
    exact Nat.le_trans ih hpq

/-- Reads an alternative: the empty part alone, or parts. -/
def alternative (p : Parser) : Except ParseError Alternative × Parser :=
  if p.current.kind = .epsilonMarker then andMap p.bump fun () => [.epsilon]
  else p.parts

theorem alternative_size_le (p : Parser) : p.alternative.2.size ≤ p.size := by
  unfold alternative
  split
  · exact bump_size_le p
  · exact parts_size_le p

def definition (p : Parser) : Except ParseError Definition × Parser :=
  match _hq : p.alternative with
  | (.error error, q) => (.error error, q)
  | (.ok a, q) =>
    if _hsep : q.current.kind = .alternativeSeparator then
      match _hr : q.bump with
      | (.error error, r) => (.error error, r)
      | (.ok (), r) => andMap r.definition (Definition.cons a)
    else
      (.ok (.single a), q)
termination_by p.size
decreasing_by
  have hle := alternative_size_le p
  rw [_hq] at hle
  have hlt := bump_size_lt _hr (by rw [_hsep]; decide)
  exact Nat.lt_of_lt_of_le hlt hle

theorem definition_size_le (p : Parser) : p.definition.2.size ≤ p.size := by
  fun_induction definition p with
  | case1 p error q hq =>
    have hpq := alternative_size_le p
    rw [hq] at hpq
    exact hpq
  | case2 p a q hq hsep error r hr =>
    have hpq := alternative_size_le p
    have hqr := bump_size_le q
    rw [hq] at hpq
    rw [hr] at hqr
    exact Nat.le_trans hqr hpq
  | case3 p a q hq hsep r hr ih =>
    have hpq := alternative_size_le p
    have hqr := bump_size_le q
    rw [hq] at hpq
    rw [hr] at hqr
    exact Nat.le_trans ih (Nat.le_trans hqr hpq)
  | case4 p a q hq hsep =>
    have hpq := alternative_size_le p
    rw [hq] at hpq
    exact hpq

def rule (p : Parser) : Except ParseError Rule × Parser :=
  match p.current.lexeme with
  | .identifier name =>
    andThen p.bump fun () p =>
    andThen (p.expect .ruleAssign) fun () p =>
    andThen p.definition fun definition p =>
    andMap (p.expect .ruleTerminator) fun () => ⟨name, definition⟩
  | _ => (.error (p.unexpected .identifier), p)

theorem expect_size_le (p : Parser) (kind : TokenKind) : (p.expect kind).2.size ≤ p.size := by
  unfold expect
  split
  · exact bump_size_le p
  · exact Nat.le_refl _

theorem andThen_size_le {α β : Type} {x : Except ParseError α × Parser}
    {next : α → Parser → Except ParseError β × Parser} {n : Nat} (hx : x.2.size ≤ n)
    (hnext : ∀ a p, p.size ≤ n → (next a p).2.size ≤ n) : (andThen x next).2.size ≤ n := by
  unfold andThen
  split
  · exact hnext _ _ hx
  · exact hx

theorem rule_size_lt {p q : Parser} {r : Rule} (h : p.rule = (.ok r, q)) : q.size < p.size := by
  unfold rule at h
  split at h
  · rename_i name hname
    have hkind : p.current.kind ≠ .endOfInput := by simp [Token.kind, hname, Lexeme.kind]
    rcases hb : p.bump with ⟨error | ⟨⟩, p₁⟩
    · rw [hb] at h
      cases h
    · rw [hb] at h
      have hq := congrArg Prod.snd h
      refine Nat.lt_of_le_of_lt ?_ (bump_size_lt hb hkind)
      rw [show q = _ from hq.symm]
      refine andThen_size_le (Nat.le_refl _) fun _ p₂ hp₂ => ?_
      refine andThen_size_le (Nat.le_trans (expect_size_le _ _) hp₂) fun _ p₃ hp₃ => ?_
      refine andThen_size_le (Nat.le_trans (definition_size_le _) hp₃) fun _ p₄ hp₄ => ?_
      exact Nat.le_trans (expect_size_le _ _) hp₄
  · cases h

/-- Reads rules up to the end of the input. -/
def grammar (p : Parser) : Except ParseError Grammar × Parser :=
  match _hq : p.rule with
  | (.error error, q) => (.error error, q)
  | (.ok r, q) =>
    if q.current.kind = .endOfInput then (.ok (.single r), q)
    else andMap q.grammar (Grammar.cons r)
termination_by p.size
decreasing_by
  exact rule_size_lt _hq

end Parser

/-- The grammar that the source writes. -/
def Grammar.parse (d : Dialect) (source : List Char) : Except ParseError Grammar := do
  (← Parser.ofSource d source).grammar.1

/-- The one rule that the source writes. -/
def Rule.parse (d : Dialect) (source : List Char) : Except ParseError Rule := do
  let p ← Parser.ofSource d source
  (Parser.andThen p.rule fun r p => Parser.andMap (p.expect .endOfInput) fun () => r).1

end TypedGrammar
