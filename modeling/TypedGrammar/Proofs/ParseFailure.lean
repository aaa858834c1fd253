import Mathlib
import TypedGrammar.Proofs.ViablePrefix

/-!
# Where parsing fails

The functions of the parser keep to the stages of a grammar. From a stage at which its nonterminal
begins, each of them moves over tokens that may follow one another and ends in a stage after the
nonterminal. When it fails, either the current token may not follow, or it may and the lexer has an
error right after it. Parsing therefore fails at the first token that can no longer belong to a
grammar, and it never looks at a token after that one.
-/

namespace TypedGrammar

namespace Parser

/-- The parser moves over tokens that lead from one stage to the other. -/
def Moves (p : Parser) (s : Stage) (q : Parser) (s' : Stage) : Prop :=
  ∃ lexemes, p.Passes lexemes q ∧ s.run? p.separated lexemes = some s' ∧ .endOfInput ∉ lexemes

/-- What the parser looks at may follow. -/
def Accepts (p : Parser) (s : Stage) : Prop :=
  (s.next? p.separated p.current.kind).isSome

/-- The error is right for the place that the parser stops at on its way from a stage. -/
inductive Refuses (p : Parser) (s : Stage) : ParseError → Prop
  | unexpected {q : Parser} {s' : Stage} {expected : TokenKind} (hmoves : p.Moves s q s')
      (hfound : ¬ q.Accepts s') (hexpected : (s'.next? q.separated expected).isSome) :
      Refuses p s (q.unexpected expected)
  | lex {q : Parser} {s' : Stage} {error : LexError} (hmoves : p.Moves s q s')
      (hcurrent : q.Accepts s') (hkind : q.current.kind ≠ .endOfInput)
      (hbump : q.bump.1 = .error (.lex error)) : Refuses p s (.lex error)

/-- What was read from the parser on keeps to the stages: a result is reached in a stage as `post` says,
and an error is right for its place. -/
def Tracks {α : Type} (p : Parser) (s : Stage) (post : Stage → Parser → Prop) :
    Except ParseError α × Parser → Prop
  | (.ok _, q) => ∃ s', p.Moves s q s' ∧ post s' q
  | (.error error, _) => p.Refuses s error

variable {α β : Type} {p q r : Parser} {s s' s'' : Stage} {post post' : Stage → Parser → Prop}

lemma Moves.refl (p : Parser) (s : Stage) : p.Moves s p s :=
  ⟨[], .nil, rfl, List.not_mem_nil⟩

lemma Moves.trans (h : p.Moves s q s') (h' : q.Moves s' r s'') : p.Moves s r s'' := by
  obtain ⟨lexemes, hpasses, hrun, hend⟩ := h
  obtain ⟨others, hpasses', hrun', hend'⟩ := h'
  refine ⟨lexemes ++ others, passes_append_iff.mpr ⟨q, hpasses, hpasses'⟩, ?_, ?_⟩
  · rw [Stage.run?_append_of_eq hrun, ← hpasses.separated, hrun']
  · rw [List.mem_append, not_or]
    exact ⟨hend, hend'⟩

lemma moves_of_bump (hbump : p.bump = (.ok (), q))
    (hnext : s.next? p.separated p.current.kind = some s') (hkind : p.current.kind ≠ .endOfInput) :
    p.Moves s q s' := by
  refine ⟨[p.current.lexeme], .cons hbump .nil, Stage.run?_cons hnext, ?_⟩
  rw [List.mem_singleton]
  intro hlexeme
  apply hkind
  rw [Token.kind, ← hlexeme]
  rfl

lemma Moves.separated (h : p.Moves s q s') : q.separated = p.separated := by
  obtain ⟨_, hpasses, _⟩ := h
  exact hpasses.separated

lemma Refuses.of_moves {error : ParseError} (h : p.Moves s q s') (h' : q.Refuses s' error) :
    p.Refuses s error := by
  cases h' with
  | unexpected hmoves hfound hexpected => exact .unexpected (h.trans hmoves) hfound hexpected
  | lex hmoves hcurrent hkind hbump => exact .lex (h.trans hmoves) hcurrent hkind hbump

lemma Tracks.moves {x : Except ParseError α × Parser} {a : α} (h : p.Tracks s post x)
    (hx : x = (.ok a, q)) : ∃ s', p.Moves s q s' ∧ post s' q := by
  rwa [hx] at h

lemma Tracks.refuses {x : Except ParseError α × Parser} {error : ParseError}
    (h : p.Tracks s post x) (hx : x.1 = .error error) : p.Refuses s error := by
  obtain ⟨error | a, q⟩ := x <;> cases hx
  exact h

lemma Tracks.of_moves {x : Except ParseError α × Parser} (h : p.Moves s q s')
    (h' : q.Tracks s' post x) : p.Tracks s post x := by
  obtain ⟨error | a, r⟩ := x
  · exact Refuses.of_moves h h'
  · obtain ⟨s'', hmoves, hpost⟩ := h'
    exact ⟨s'', h.trans hmoves, hpost⟩

lemma Tracks.mono {x : Except ParseError α × Parser} (h : p.Tracks s post x)
    (hpost : ∀ s' q, post s' q → post' s' q) : p.Tracks s post' x := by
  obtain ⟨error | a, q⟩ := x
  · exact h
  · obtain ⟨s', hmoves, hq⟩ := h
    exact ⟨s', hmoves, hpost s' q hq⟩

lemma Tracks.andMap {x : Except ParseError α × Parser} {f : α → β} (h : p.Tracks s post x) :
    p.Tracks s post (andMap x f) := by
  obtain ⟨error | a, r⟩ := x <;> exact h

lemma Tracks.andThen {x : Except ParseError α × Parser}
    {next : α → Parser → Except ParseError β × Parser} (h : p.Tracks s post x)
    (hnext : ∀ a q s', post s' q → q.Tracks s' post' (next a q)) :
    p.Tracks s post' (andThen x next) := by
  obtain ⟨error | a, q⟩ := x
  · exact h
  · obtain ⟨s', hmoves, hpost⟩ := h
    exact .of_moves hmoves (hnext a q s' hpost)

lemma refuses_of_bump {error : ParseError} (hbump : p.bump = (.error error, q))
    (hnext : s.next? p.separated p.current.kind = some s') (hkind : p.current.kind ≠ .endOfInput) :
    p.Refuses s error := by
  have haccepts : p.Accepts s := by
    rw [Accepts, hnext]
    rfl
  have hfirst := congrArg Prod.fst hbump
  unfold bump at hbump
  split at hbump
  · cases hbump
  · cases hbump
    exact .lex (.refl p s) haccepts hkind hfirst

lemma tracks_bump (hnext : s.next? p.separated p.current.kind = some s')
    (hkind : p.current.kind ≠ .endOfInput) : p.Tracks s (fun s'' _ => s'' = s') p.bump := by
  rcases hbump : p.bump with ⟨error | ⟨⟩, q⟩
  · exact refuses_of_bump hbump hnext hkind
  · exact ⟨s', moves_of_bump hbump hnext hkind, rfl⟩

lemma tracks_expect {kind : TokenKind} (hnext : s.next? p.separated kind = some s')
    (hkind : kind ≠ .endOfInput) (honly : p.Accepts s → p.current.kind = kind) :
    p.Tracks s (fun s'' _ => s'' = s') (p.expect kind) := by
  unfold expect
  split
  · rename_i hcurrent
    subst hcurrent
    exact tracks_bump hnext hkind
  · rename_i hcurrent
    exact .unexpected (.refl p s) (fun h => hcurrent (honly h)) (by rw [hnext]; rfl)

/-! ### Choices, definitions, rules -/

/-- A choice ends here, and only the definition or the rule around it goes on. -/
def AtChoiceEnd (s : Stage) (p : Parser) : Prop :=
  s.EndsChoice ∧
    (p.Accepts s → p.current.kind = .alternativeSeparator ∨ p.current.kind = .ruleTerminator)

/-- A definition ends here, and only the rule around it goes on. -/
def AtDefinitionEnd (s : Stage) (p : Parser) : Prop :=
  s.EndsChoice ∧ (p.Accepts s → p.current.kind = .ruleTerminator)

def AtRule (s : Stage) (p : Parser) : Prop :=
  s = .start ∨ s = .ruleTerminator ∧ p.current.kind ≠ .endOfInput

lemma exists_name_of_kind (h : p.current.kind = .identifier) :
    ∃ name, p.current.lexeme = .identifier name := by
  unfold Token.kind at h
  cases hlexeme : p.current.lexeme with
  | identifier name => exact ⟨name, rfl⟩
  | _ => simp [hlexeme, Lexeme.kind] at h

lemma kind_of_part? {part : Part} (h : p.current.lexeme.part? = some part) :
    p.current.kind = .identifier ∨ p.current.kind = .quotedLiteral := by
  unfold Token.kind
  cases hlexeme : p.current.lexeme <;> simp_all [Lexeme.part?, Lexeme.kind]

lemma kind_of_part?_eq_none (h : p.current.lexeme.part? = none) :
    p.current.kind ≠ .identifier ∧ p.current.kind ≠ .quotedLiteral := by
  unfold Token.kind
  cases hlexeme : p.current.lexeme <;> simp_all [Lexeme.part?, Lexeme.kind]

lemma next?_of_part? {part : Part} (h : p.current.lexeme.part? = some part)
    (hs : s = .opening ∨ s = .sequenceSeparator) :
    s.next? p.separated p.current.kind = some .part := by
  rcases hs with rfl | rfl <;> rcases kind_of_part? h with hkind | hkind <;> rw [hkind] <;> rfl

lemma next?_of_sequenceSeparator (hseparated : p.separated = true)
    (hkind : p.current.kind = .sequenceSeparator) :
    Stage.part.next? p.separated p.current.kind = some .sequenceSeparator := by
  rw [hseparated, hkind]
  rfl

/-- The parts of a choice are read where a part may follow, or where the choice ends. -/
lemma tracks_parts (hend : p.current.lexeme.part? = none → AtChoiceEnd s p)
    (hpart : ∀ part, p.current.lexeme.part? = some part →
      s.next? p.separated p.current.kind = some .part) :
    p.Tracks s AtChoiceEnd p.parts := by
  -- The stage is `opening` at first and then `sequenceSeparator` or `part`, by the dialect, so the
  -- induction is for any stage that is right for the current token.
  fun_induction parts p generalizing s with
  | case1 p hnone => exact ⟨s, .refl p s, hend hnone⟩
  | case2 p part hsome error q hbump =>
    exact refuses_of_bump hbump (hpart part hsome) (kind_ne_endOfInput_of_part? hsome)
  | case3 p part hsome q hbump hseparated hkind error r hsecond =>
    have hmoves := moves_of_bump hbump (hpart part hsome) (kind_ne_endOfInput_of_part? hsome)
    have hnext := next?_of_sequenceSeparator (hmoves.separated.trans hseparated) hkind
    exact .of_moves hmoves (refuses_of_bump hsecond hnext (by rw [hkind]; decide))
  | case4 p part hsome q hbump hseparated hkind r hsecond hstart ih =>
    have hmoves := moves_of_bump hbump (hpart part hsome) (kind_ne_endOfInput_of_part? hsome)
    have hnext := next?_of_sequenceSeparator (hmoves.separated.trans hseparated) hkind
    have hmoves' := hmoves.trans (moves_of_bump hsecond hnext (by rw [hkind]; decide))
    refine .of_moves hmoves' (ih (fun hnone => ?_) fun part h => next?_of_part? h (.inr rfl)).andMap
    rw [hnone] at hstart
    cases hstart
  | case5 p part hsome q hbump hseparated hkind r hsecond hstart =>
    have hmoves := moves_of_bump hbump (hpart part hsome) (kind_ne_endOfInput_of_part? hsome)
    have hnext := next?_of_sequenceSeparator (hmoves.separated.trans hseparated) hkind
    have hmoves' := hmoves.trans (moves_of_bump hsecond hnext (by rw [hkind]; decide))
    have hnopart := kind_of_part?_eq_none (Option.not_isSome_iff_eq_none.mp hstart)
    exact .unexpected hmoves' (by simp [Accepts, hnopart]) rfl
  | case6 p part hsome q hbump hseparated hkind =>
    have hmoves := moves_of_bump hbump (hpart part hsome) (kind_ne_endOfInput_of_part? hsome)
    refine ⟨.part, hmoves, .inr (.inr rfl), ?_⟩
    simp [Accepts, hmoves.separated, hseparated, hkind]
  | case7 p part hsome q hbump hseparated ih =>
    have hmoves := moves_of_bump hbump (hpart part hsome) (kind_ne_endOfInput_of_part? hsome)
    have hunseparated : q.separated = false := by simpa [hmoves.separated] using hseparated
    refine .of_moves hmoves (ih (fun hnone => ⟨.inr (.inr rfl), ?_⟩) fun part hpart => ?_).andMap
    · have hnopart := kind_of_part?_eq_none hnone
      simp [Accepts, hunseparated, hnopart]
    · rw [hunseparated]
      rcases kind_of_part? hpart with h | h <;> rw [h] <;> rfl

lemma tracks_alternative (p : Parser) : p.Tracks .opening AtChoiceEnd p.alternative := by
  unfold alternative
  split
  · rename_i hkind
    have hnext : Stage.opening.next? p.separated p.current.kind = some .epsilonMarker := by
      rw [hkind]
      rfl
    refine ((tracks_bump hnext (by rw [hkind]; decide)).mono ?_).andMap
    rintro _ q rfl
    exact ⟨.inr (.inl rfl), Stage.isSome_next?_epsilonMarker.mp⟩
  · rename_i hkind
    refine tracks_parts (fun hnone => ⟨.inl rfl, ?_⟩) fun part h => next?_of_part? h (.inl rfl)
    have hnopart := kind_of_part?_eq_none hnone
    simp [Accepts, hkind, hnopart]

lemma tracks_definition (p : Parser) : p.Tracks .opening AtDefinitionEnd p.definition := by
  have hnext : ∀ {q : Parser} {s}, AtChoiceEnd s q → q.current.kind = .alternativeSeparator →
      s.next? q.separated q.current.kind = some .opening ∧ q.current.kind ≠ .endOfInput := by
    intro q s hend hkind
    rw [hkind, hend.1.next?.1]
    exact ⟨rfl, by decide⟩
  fun_induction definition p with
  | case1 p error q ha => exact (tracks_alternative p).refuses (by rw [ha])
  | case2 p a q ha hkind error r hbump =>
    obtain ⟨s, hmoves, hend⟩ := (tracks_alternative p).moves ha
    obtain ⟨hnext, hkind⟩ := hnext hend hkind
    exact .of_moves hmoves (refuses_of_bump hbump hnext hkind)
  | case3 p a q ha hkind r hbump ih =>
    obtain ⟨s, hmoves, hend⟩ := (tracks_alternative p).moves ha
    obtain ⟨hnext, hkind⟩ := hnext hend hkind
    exact .of_moves (hmoves.trans (moves_of_bump hbump hnext hkind)) ih.andMap
  | case4 p a q ha hkind =>
    obtain ⟨s, hmoves, hend, honly⟩ := (tracks_alternative p).moves ha
    exact ⟨s, hmoves, hend, fun haccepts => (honly haccepts).resolve_left hkind⟩

lemma tracks_rule (hs : AtRule s p) : p.Tracks s (fun s' _ => s' = .ruleTerminator) p.rule := by
  unfold rule
  split
  · rename_i name hname
    have hkind : p.current.kind = .identifier := by
      rw [Token.kind, hname]
      rfl
    have hnext : s.next? p.separated p.current.kind = some .ruleName := by
      rcases hs with rfl | ⟨rfl, _⟩ <;> rw [hkind] <;> rfl
    refine (tracks_bump hnext (by rw [hkind]; decide)).andThen ?_
    rintro ⟨⟩ p₁ _ rfl
    refine (tracks_expect rfl (by decide) Stage.isSome_next?_ruleName.mp).andThen ?_
    rintro ⟨⟩ p₂ _ rfl
    refine (tracks_definition p₂).andThen ?_
    rintro d p₃ s₃ ⟨hend, honly⟩
    exact (tracks_expect hend.next?.2 (by decide) honly).andMap
  · rename_i hname
    have hkind : p.current.kind ≠ .identifier := by
      intro hkind
      obtain ⟨name, hlexeme⟩ := exists_name_of_kind hkind
      exact hname name hlexeme
    rcases hs with rfl | ⟨rfl, hend⟩
    · exact .unexpected (.refl p _) (by simp [Accepts, hkind]) rfl
    · exact .unexpected (.refl p _) (by simp [Accepts, hkind, hend]) rfl

lemma tracks_grammar (hs : AtRule s p) :
    p.Tracks s (fun s' _ => s' = .ruleTerminator) p.grammar := by
  fun_induction grammar p generalizing s with
  | case1 p error q hr => exact (tracks_rule hs).refuses (by rw [hr])
  | case2 p r q hr hkind => exact (tracks_rule hs).moves hr
  | case3 p r q hr hkind ih =>
    obtain ⟨_, hmoves, rfl⟩ := (tracks_rule hs).moves hr
    exact .of_moves hmoves (ih (.inr ⟨rfl, hkind⟩)).andMap

/-! ### Tokens before the failure -/

/-- From the beginning of source the parser moves over what the lexer yields, and looks at the token
that is yielded then. -/
lemma Moves.yields {d : Dialect} {source : List Char} (hp : ofSource d source = .ok p)
    (h : p.Moves .start q s) :
    ∃ tokens l after, (Lexer.ofSource d source).Yields tokens l ∧
      Stage.start.run? d.concatenation.isSome (tokens.map Token.lexeme) = some s ∧
      l.next? = (some (.ok q.current), after) ∧ (q.Accepts s → q.Follows l) := by
  obtain ⟨hseparated, ⟨after, hnext⟩, hfollows⟩ := follows_of_ofSource hp
  obtain ⟨lexemes, hpasses, hrun, hend⟩ := h
  rw [hseparated] at hrun
  -- A token that may come first is a name, and what follows a name is read one token at a time.
  have hname : p.Accepts .start → d.Delimited ∧ p.Follows (Lexer.ofSource d source) := by
    intro haccepts
    obtain ⟨name, hlexeme⟩ := exists_name_of_kind (Stage.isSome_next?_start.mp haccepts)
    apply hfollows
    rw [hlexeme]
    rfl
  cases lexemes with
  | nil =>
    obtain rfl := passes_nil_iff.mp hpasses
    cases hrun
    exact ⟨[], _, after, .nil, rfl, hnext, fun haccepts => (hname haccepts).2⟩
  | cons first lexemes =>
    have haccepts : p.Accepts .start := by
      obtain ⟨s', hs', _⟩ := Stage.run?_cons_eq_some_iff.mp hrun
      rw [Accepts, Token.kind, (passes_cons_iff.mp hpasses).1, hseparated, hs']
      rfl
    obtain ⟨hd, hfollows⟩ := hname haccepts
    obtain ⟨tokens, l, hyields, hmap, hq⟩ := hpasses.yields hd hfollows hend
    obtain ⟨after, hnext, hahead⟩ := hq
    exact ⟨tokens, l, after, hyields, hmap ▸ hrun, hnext, fun _ => ⟨after, hnext, hahead⟩⟩

end Parser

/-- The lexer yields the tokens and after them the error, and nothing more. -/
def Lexer.FailsAfter (l : Lexer) (tokens : List Token) (error : LexError) : Prop :=
  ∃ after, l.Yields tokens after ∧ after.next?.1 = some (.error error) ∧ after.next?.2.next?.1 = none

lemma Lexer.FailsAfter.of_yields {l after : Lexer} {tokens : List Token} {error : LexError}
    (h : l.Yields tokens after) (herror : after.next?.1 = some (.error error)) :
    l.FailsAfter tokens error := by
  refine ⟨after, h, herror, ?_⟩
  have hstopped := stopped_of_next?_error (Prod.ext herror rfl)
  rw [next?, if_pos hstopped]

/-- The error is about the first token that can no longer belong to a grammar. An unexpected token is
that token itself, and one of the expected kind could have stood in its place; characters are at fault
where no token before them is. -/
def ParseError.AtFirstFailure (l : Lexer) (separated : Bool) : ParseError → Prop
  | .unexpectedToken expected found position =>
    ∃ before token after, l.Yields (before ++ [token]) after ∧
      token.kind = found ∧ token.position = position ∧
      Viable separated (before.map Token.lexeme) ∧
      ¬ Viable separated (before.map Token.lexeme ++ [token.lexeme]) ∧
      ∃ lexeme : Lexeme, lexeme.kind = expected ∧
        Viable separated (before.map Token.lexeme ++ [lexeme])
  | .lex error => ∃ before, l.FailsAfter before error ∧ Viable separated (before.map Token.lexeme)

lemma TokenKind.exists_lexeme (kind : TokenKind) : ∃ lexeme : Lexeme, lexeme.kind = kind := by
  cases kind with
  | identifier => exact ⟨.identifier ⟨[⟨[], rfl⟩], by simp⟩, rfl⟩
  | quotedLiteral => exact ⟨.quotedLiteral ⟨[], rfl⟩, rfl⟩
  | ruleAssign => exact ⟨.ruleAssign, rfl⟩
  | alternativeSeparator => exact ⟨.alternativeSeparator, rfl⟩
  | sequenceSeparator => exact ⟨.sequenceSeparator, rfl⟩
  | epsilonMarker => exact ⟨.epsilonMarker, rfl⟩
  | ruleTerminator => exact ⟨.ruleTerminator, rfl⟩
  | endOfInput => exact ⟨.endOfInput, rfl⟩

/-- What may follow viable lexemes. -/
lemma viable_concat_iff {separated : Bool} {s : Stage} {lexemes : List Lexeme} {lexeme : Lexeme}
    (h : Stage.start.run? separated lexemes = some s) :
    Viable separated (lexemes ++ [lexeme]) ↔ (s.next? separated lexeme.kind).isSome := by
  rw [viable_iff, Stage.run?_concat, h]
  rfl

lemma Parser.Refuses.atFirstFailure {d : Dialect} {source : List Char} {p : Parser}
    {error : ParseError} (hp : ofSource d source = .ok p) (h : p.Refuses .start error) :
    error.AtFirstFailure (Lexer.ofSource d source) d.concatenation.isSome := by
  have hseparated := (follows_of_ofSource hp).1
  cases h with
  | @unexpected q s expected hmoves hfound hexpected =>
    obtain ⟨tokens, l, after, hyields, hrun, hnext, _⟩ := hmoves.yields hp
    rw [Accepts, hmoves.separated, hseparated] at hfound
    rw [hmoves.separated, hseparated] at hexpected
    obtain ⟨lexeme, rfl⟩ := expected.exists_lexeme
    refine ⟨tokens, q.current, after, hyields.append (.cons hnext .nil), rfl, rfl, ?_, ?_, ?_⟩
    · rw [viable_iff, hrun]
      rfl
    · rwa [viable_concat_iff hrun]
    · exact ⟨lexeme, rfl, (viable_concat_iff hrun).mpr hexpected⟩
  | @lex q s error hmoves hcurrent hkind hbump =>
    obtain ⟨tokens, l, _, hyields, hrun, _, hfollows⟩ := hmoves.yields hp
    have hlexeme : q.current.lexeme ≠ .endOfInput := fun h => hkind (congrArg Lexeme.kind h)
    obtain ⟨after, hcurrentYields, hnext⟩ := (hfollows hcurrent).next?_of_bump hlexeme hbump
    -- The current token may follow, so that it is one of those before the error.
    rw [Accepts, hmoves.separated, hseparated] at hcurrent
    refine ⟨tokens ++ [q.current], .of_yields (hyields.append hcurrentYields) hnext, ?_⟩
    rw [List.map_append]
    exact (viable_concat_iff hrun).mpr hcurrent

/-- Source that is no grammar is refused at the first token that can no longer belong to one. -/
theorem atFirstFailure_of_parse {d : Dialect} {source : List Char} {error : ParseError}
    (h : Grammar.parse d source = .error error) :
    error.AtFirstFailure (Lexer.ofSource d source) d.concatenation.isSome := by
  cases hp : Parser.ofSource d source with
  | error first =>
    rw [Grammar.parse_of_error hp] at h
    cases h
    obtain ⟨lexError, rfl, hnext⟩ := Parser.next?_of_ofSource hp
    exact ⟨[], .of_yields .nil hnext, viable_iff.mpr rfl⟩
  | ok p =>
    rw [Grammar.parse_of_ok hp] at h
    have hgrammar := Parser.tracks_grammar (p := p) (.inl rfl)
    exact (hgrammar.refuses h).atFirstFailure hp

lemma Grammar.parse_of_rule {d : Dialect} {source : List Char} {p : Parser} {error : ParseError}
    (hp : Parser.ofSource d source = .ok p) (h : p.rule.1 = .error error) :
    Grammar.parse d source = .error error := by
  rw [parse_of_ok hp, Parser.grammar_eq, show p.rule = (.error error, p.rule.2) from Prod.ext h rfl]
  rfl

theorem atFirstFailure_digit :
    (Grammar.parse .ebnf "digit one".toList =
        .error (.unexpectedToken .ruleAssign .identifier ⟨6, 1, 7⟩) ∧
      (ParseError.unexpectedToken .ruleAssign .identifier ⟨6, 1, 7⟩).AtFirstFailure
        (Lexer.ofSource .ebnf "digit one".toList) true) ∧
    (Grammar.parse .bnf "digit ::= ?".toList =
        .error (.lex ⟨.illegalCharacter '?', ⟨10, 1, 11⟩⟩) ∧
      (ParseError.lex ⟨.illegalCharacter '?', ⟨10, 1, 11⟩⟩).AtFirstFailure
        (Lexer.ofSource .bnf "digit ::= ?".toList) false) := by
  constructor
  · have herror : Grammar.parse .ebnf "digit one".toList =
        .error (.unexpectedToken .ruleAssign .identifier ⟨6, 1, 7⟩) :=
      Grammar.parse_of_rule (by cbv) (by cbv)
    exact ⟨herror, atFirstFailure_of_parse herror⟩
  · have herror : Grammar.parse .bnf "digit ::= ?".toList =
        .error (.lex ⟨.illegalCharacter '?', ⟨10, 1, 11⟩⟩) :=
      Grammar.parse_of_rule (by cbv) (by cbv)
    exact ⟨herror, atFirstFailure_of_parse herror⟩

end TypedGrammar
