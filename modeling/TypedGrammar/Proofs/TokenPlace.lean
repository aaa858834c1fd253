import TypedGrammar.Proofs.YieldedTokens

/-!
# Places of tokens

A parser goes by what tokens are and not by where they are. When its tokens are moved to other places it reads
the same, and an error is moved likewise. So what two sources parse to can differ in places only, if that is
all their lexers differ in.
-/

namespace TypedGrammar

variable (f : Position → Position)

/-! ### Moving what has a place -/

def Token.relocate (token : Token) : Token :=
  ⟨token.lexeme, f token.position⟩

def LexError.relocate (error : LexError) : LexError :=
  ⟨error.kind, f error.position⟩

def ParseError.relocate : ParseError → ParseError
  | .lex error => .lex (error.relocate f)
  | .unexpectedToken expected found position => .unexpectedToken expected found (f position)

/-- The token or the error at another place. -/
def Lexer.relocate : Except LexError Token → Except LexError Token
  | .ok token => .ok (token.relocate f)
  | .error error => .error (error.relocate f)

def Ending.relocate : Ending → Ending
  | .endOfInput position => .endOfInput (f position)
  | .failed error location => .failed (error.relocate f) (f location)

def TokenStream.relocate (s : TokenStream) : TokenStream :=
  ⟨s.tokens.map (Token.relocate f), s.ending.relocate f⟩

lemma TokenStream.pull_relocate (s : TokenStream) :
    (s.relocate f).pull = (Lexer.relocate f s.pull.1, s.pull.2.relocate f) := by
  obtain ⟨tokens, ending⟩ := s
  cases tokens with
  | nil => cases ending <;> rfl
  | cons token tokens => rfl

lemma TokenStream.relocate_cons (s : TokenStream) (token : Token) :
    (s.cons token).relocate f = (s.relocate f).cons (token.relocate f) := rfl

/-! ### Parsers -/

namespace Parser

variable {f}

def relocate (f : Position → Position) (p : Parser) : Parser :=
  ⟨p.current.relocate f, p.ahead.relocate f, p.separated⟩

/-- What a parser reads from relocated tokens: the same value with the relocated parser, or the relocated
error. -/
def relocateResult {α : Type} (f : Position → Position) (x : Except ParseError α × Parser) :
    Except ParseError α × Parser :=
  (x.1.mapError (ParseError.relocate f), x.2.relocate f)

variable {α β : Type}

lemma andThen_relocate {next next' : α → Parser → Except ParseError β × Parser}
    (x : Except ParseError α × Parser)
    (h : ∀ a p, next' a (p.relocate f) = relocateResult f (next a p)) :
    andThen (relocateResult f x) next' = relocateResult f (andThen x next) := by
  obtain ⟨error | a, p⟩ := x
  · rfl
  · exact h a p

lemma andMap_relocate (x : Except ParseError α × Parser) (g : α → β) :
    andMap (relocateResult f x) g = relocateResult f (andMap x g) := by
  obtain ⟨error | a, p⟩ := x <;> rfl

lemma bump_relocate (p : Parser) : (p.relocate f).bump = relocateResult f p.bump := by
  unfold bump
  rw [show (p.relocate f).ahead = p.ahead.relocate f from rfl, TokenStream.pull_relocate]
  rcases p.ahead.pull with ⟨error | token, ahead⟩ <;> rfl

lemma expect_relocate (p : Parser) (kind : TokenKind) :
    (p.relocate f).expect kind = relocateResult f (p.expect kind) := by
  unfold expect
  rw [show (p.relocate f).current.kind = p.current.kind from rfl, bump_relocate]
  split <;> rfl

lemma parts_of_part?_eq_none {p : Parser} (hpart : p.current.lexeme.part? = none) :
    p.parts = (.ok [], p) := by
  rw [parts]
  split
  · rfl
  · rename_i hsome
    cases hpart.symm.trans hsome

lemma rule_of_part?_eq_none {p : Parser} (hpart : p.current.lexeme.part? = none) :
    p.rule = (.error (p.unexpected .identifier), p) := by
  rw [rule]
  split
  · rename_i name hname
    rw [hname] at hpart
    cases hpart
  · rfl

lemma grammar_of_part?_eq_none {p : Parser} (hpart : p.current.lexeme.part? = none) :
    p.grammar = (.error (p.unexpected .identifier), p) := by
  rw [grammar_eq, rule_of_part?_eq_none hpart]
  rfl

lemma parts_of_part? {p : Parser} {part : Part} (hpart : p.current.lexeme.part? = some part) :
    p.parts = andThen p.bump fun () q =>
      if p.separated then
        if q.current.kind = .sequenceSeparator then
          andThen q.bump fun () r =>
            if r.current.lexeme.part?.isSome then andMap r.parts (part :: ·)
            else (.error (r.unexpected .identifier), r)
        else (.ok [part], q)
      else andMap q.parts (part :: ·) := by
  rcases hbump : p.bump with ⟨error | ⟨⟩, q⟩
  · rw [parts]
    split
    · rename_i hnone
      cases hpart.symm.trans hnone
    · split
      · rename_i herror
        cases hbump.symm.trans herror
        rfl
      · rename_i hok
        cases hbump.symm.trans hok
  · exact parts_eq hpart hbump

/-- What follows a first part, read from relocated tokens. -/
lemma parts_relocate_of_bump {p q : Parser} {part : Part} (hpart : p.current.lexeme.part? = some part)
    (hbump : p.bump = (.ok (), q)) :
    (p.relocate f).parts =
      if p.separated then
        if q.current.kind = .sequenceSeparator then
          andThen (relocateResult f q.bump) fun () r =>
            if r.current.lexeme.part?.isSome then andMap r.parts (part :: ·)
            else (.error (r.unexpected .identifier), r)
        else (.ok [part], q.relocate f)
      else andMap (q.relocate f).parts (part :: ·) := by
  rw [parts_of_part? (p := p.relocate f) hpart, bump_relocate, hbump, ← bump_relocate]
  rfl

lemma parts_relocate (p : Parser) : (p.relocate f).parts = relocateResult f p.parts := by
  fun_induction parts p with
  | case1 p hpart =>
    rw [parts_of_part?_eq_none (p := p.relocate f) hpart]
    rfl
  | case2 p part hpart error q hbump =>
    rw [parts_of_part? (p := p.relocate f) hpart, bump_relocate, hbump]
    rfl
  | case3 p part hpart q hbump hseparated hkind error r hsecond =>
    rw [parts_relocate_of_bump hpart hbump, if_pos hseparated, if_pos hkind, hsecond]
    rfl
  | case4 p part hpart q hbump hseparated hkind r hsecond hstart ih =>
    rw [parts_relocate_of_bump hpart hbump, if_pos hseparated, if_pos hkind, hsecond,
      ← andMap_relocate, ← ih]
    exact if_pos hstart
  | case5 p part hpart q hbump hseparated hkind r hsecond hstart =>
    rw [parts_relocate_of_bump hpart hbump, if_pos hseparated, if_pos hkind, hsecond]
    exact if_neg hstart
  | case6 p part hpart q hbump hseparated hkind =>
    rw [parts_relocate_of_bump hpart hbump, if_pos hseparated, if_neg hkind]
    rfl
  | case7 p part hpart q hbump hseparated ih =>
    rw [parts_relocate_of_bump hpart hbump, if_neg hseparated, ih, andMap_relocate]

lemma alternative_relocate (p : Parser) :
    (p.relocate f).alternative = relocateResult f p.alternative := by
  unfold alternative
  rw [show (p.relocate f).current.kind = p.current.kind from rfl, bump_relocate, parts_relocate]
  split
  · exact andMap_relocate _ _
  · rfl

lemma definition_relocate (p : Parser) :
    (p.relocate f).definition = relocateResult f p.definition := by
  fun_induction definition p with
  | case1 p error q ha =>
    rw [definition_eq, alternative_relocate, ha]
    rfl
  | case2 p a q ha hkind error r hbump =>
    rw [definition_eq, alternative_relocate, ha]
    change (if q.current.kind = .alternativeSeparator then _ else _) = _
    rw [if_pos hkind, bump_relocate, hbump]
    rfl
  | case3 p a q ha hkind r hbump ih =>
    rw [definition_eq, alternative_relocate, ha]
    change (if q.current.kind = .alternativeSeparator then _ else _) = _
    rw [if_pos hkind, bump_relocate, hbump, ← andMap_relocate, ← ih]
    rfl
  | case4 p a q ha hkind =>
    rw [definition_eq, alternative_relocate, ha]
    exact if_neg hkind

lemma rule_relocate (p : Parser) : (p.relocate f).rule = relocateResult f p.rule := by
  unfold rule
  rw [show (p.relocate f).current.lexeme = p.current.lexeme from rfl]
  split
  · rw [bump_relocate]
    refine andThen_relocate _ fun () p => ?_
    rw [expect_relocate]
    refine andThen_relocate _ fun () p => ?_
    rw [definition_relocate]
    refine andThen_relocate _ fun definition p => ?_
    rw [expect_relocate, andMap_relocate]
  · rfl

lemma grammar_relocate (p : Parser) : (p.relocate f).grammar = relocateResult f p.grammar := by
  fun_induction grammar p with
  | case1 p error q hr =>
    rw [grammar_eq, rule_relocate, hr]
    rfl
  | case2 p r q hr hkind =>
    rw [grammar_eq, rule_relocate, hr]
    exact if_pos hkind
  | case3 p r q hr hkind ih =>
    rw [grammar_eq, rule_relocate, hr, ← andMap_relocate, ← ih]
    exact if_neg hkind

end Parser

/-! ### Sources -/

lemma Grammar.parse_eq (d : Dialect) (source : List Char) : parse d source =
    match (Lexer.ofSource d source).stream.pull with
    | (.ok token, ahead) => (Parser.grammar ⟨token, ahead, d.concatenation.isSome⟩).1
    | (.error error, _) => .error (.lex error) := by
  rw [parse, Parser.ofSource]
  rcases (Lexer.ofSource d source).stream.pull with ⟨error | token, ahead⟩ <;> rfl

variable {f}

/-- What source parses to is determined by its relocated tokens, up to the place of an error. -/
lemma Grammar.mapError_parse (d : Dialect) (source : List Char) :
    (parse d source).mapError (ParseError.relocate f) =
      match ((Lexer.ofSource d source).stream.relocate f).pull with
      | (.ok token, ahead) => (Parser.grammar ⟨token, ahead, d.concatenation.isSome⟩).1
      | (.error error, _) => .error (.lex error) := by
  rw [parse_eq, TokenStream.pull_relocate]
  rcases (Lexer.ofSource d source).stream.pull with ⟨error | token, ahead⟩
  · rfl
  · exact (congrArg Prod.fst (Parser.grammar_relocate (f := f) _)).symm

theorem Grammar.mapError_parse_congr {d : Dialect} {source source' : List Char}
    (h : (Lexer.ofSource d source).stream.relocate f =
      (Lexer.ofSource d source').stream.relocate f) :
    (parse d source).mapError (ParseError.relocate f) =
      (parse d source').mapError (ParseError.relocate f) := by
  rw [mapError_parse, mapError_parse, h]

namespace Lexer

/-- Two lexers yield the same tokens and end in the same way, up to places. -/
def Matches (f : Position → Position) (l l' : Lexer) : Prop :=
  ∀ i, (l.after i).next?.1.map (relocate f) = (l'.after i).next?.1.map (relocate f) ∧
    f (l.after i).location = f (l'.after i).location

/-- Lexers match if whatever relates them is kept by calls that yield the same up to places. -/
lemma matches_of_related {R : Lexer → Lexer → Prop} {l l' : Lexer}
    (hnext : ∀ l l', R l l' → l.next?.1.map (relocate f) = l'.next?.1.map (relocate f) ∧
      R l.next?.2 l'.next?.2)
    (hlocation : ∀ l l', R l l' → f l.location = f l'.location) (h : R l l') : Matches f l l' := by
  intro i
  induction i generalizing l l' with
  | zero => exact ⟨(hnext l l' h).1, hlocation l l' h⟩
  | succ i ih => exact ih (hnext l l' h).2

/-- What is yielded one by one is all that the streams hold. -/
theorem relocate_stream_of_matches {l l' : Lexer} (h : Matches f l l') (hd : l.dialect.Delimited)
    (hd' : l'.dialect.Delimited) (hl : l.stopped = false) (hl' : l'.stopped = false) :
    l.stream.relocate f = l'.stream.relocate f := by
  induction hn : l.size using Nat.strong_induction_on generalizing l l' with
  | _ n ih =>
  subst hn
  have hnext := next?_of_not_stopped hl
  have hnext' := next?_of_not_stopped hl'
  have htail : Matches f l.read.2 l'.read.2 := by
    intro i
    have hi := h (i + 1)
    rwa [after, after, hnext, hnext'] at hi
  have hhead := (h 0).1
  rw [after, after, hnext, hnext'] at hhead
  have hend := (htail 0).2
  rcases hread : l.read with ⟨result, next⟩
  rcases hread' : l'.read with ⟨result', next'⟩
  rw [hread] at hnext hhead htail hend
  rw [hread'] at hnext' hhead htail hend
  have hsame : relocate f result = relocate f result' := Option.some.inj hhead
  cases result with
  | error error =>
    cases result' with
    | ok => cases hsame
    | error error' =>
      rw [stream, hnext, stream, hnext']
      exact congrArg₂ (fun error location => TokenStream.mk [] (.failed error location))
        (Except.error.inj hsame) hend
  | ok token =>
    cases result' with
    | error => cases hsame
    | ok token' =>
      have htokens : token.relocate f = token'.relocate f := Except.ok.inj hsame
      obtain ⟨hlexeme, hposition⟩ := Token.mk.inj htokens
      by_cases htoken : token.lexeme = .endOfInput
      · obtain ⟨lexeme, position⟩ := token
        obtain ⟨lexeme', position'⟩ := token'
        obtain rfl := hlexeme
        obtain rfl := htoken
        rw [stream_of_endOfInput hnext, stream_of_endOfInput hnext']
        exact congrArg (fun position => TokenStream.mk [] (.endOfInput position)) hposition
      · have htoken' : token'.lexeme ≠ .endOfInput := by rwa [← hlexeme]
        obtain ⟨hdialect, hstopped, hsize⟩ := read_eq_ok hread htoken
        obtain ⟨hdialect', hstopped', _⟩ := read_eq_ok hread' htoken'
        rw [(next?_eq_ok hnext htoken).2.2 hd, (next?_eq_ok hnext' htoken').2.2 hd',
          TokenStream.relocate_cons, TokenStream.relocate_cons, htokens,
          ih _ (hsize hd) htail (hdialect ▸ hd) (hdialect' ▸ hd') (hstopped.trans hl)
            (hstopped'.trans hl') rfl]

end Lexer

end TypedGrammar
