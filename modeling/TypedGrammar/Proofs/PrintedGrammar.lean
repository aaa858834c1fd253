import TypedGrammar.Proofs.PrintedLexeme

/-!
# Printed grammars

A printed rule is a line of words with a space between any two: those of its lexemes, in order. So a
faithful dialect reads a printed grammar as the lexemes of the grammar, up to bare names that look
like the marker of the empty part.
-/

namespace TypedGrammar

/-! ### Lines of words -/

/-- The words of the lexemes, each after a space. -/
def Dialect.spaced (d : Dialect) (lexemes : List Lexeme) : List Char :=
  lexemes.flatMap fun lexeme => ' ' :: d.word lexeme

lemma Dialect.spaced_cons (d : Dialect) (lexeme : Lexeme) (lexemes : List Lexeme) :
    d.spaced (lexeme :: lexemes) = ' ' :: (d.word lexeme ++ d.spaced lexemes) :=
  rfl

lemma Dialect.spaced_append (d : Dialect) (before after : List Lexeme) :
    d.spaced (before ++ after) = d.spaced before ++ d.spaced after :=
  List.flatMap_append

lemma Part.print_eq (d : Dialect) (part : Part) : part.print d = d.word part.lexeme := by
  cases part <;> rfl

/-- The parts of an alternative are printed as the words of its lexemes. -/
lemma Alternative.spaced_lexemes (d : Dialect) (a : Alternative) :
    d.spaced (Alternative.lexemes d.concatenation.isSome a) =
      (if a = [] then [] else [' ']) ++ Alternative.print d a := by
  induction a with
  | nil => simp [Dialect.spaced, Alternative.print]
  | cons part a ih =>
    cases a with
    | nil => simp [Dialect.spaced, Alternative.print, Part.print_eq]
    | cons second a =>
      have hprint : Alternative.print d (part :: second :: a) =
          part.print d ++ d.partSeparator ++ Alternative.print d (second :: a) :=
        List.intercalate_cons_cons
      rw [if_neg (List.cons_ne_nil _ _), List.singleton_append] at ih ⊢
      rw [hprint, Part.print_eq]
      cases hconcatenation : d.concatenation with
      | none =>
        rw [hconcatenation, Option.isSome_none] at ih
        rw [Option.isSome_none, Alternative.lexemes_cons, Dialect.spaced_cons, ih,
          Dialect.partSeparator, hconcatenation]
        simp
      | some text =>
        have hword : d.word .sequenceSeparator = text := by simp [Dialect.word, hconcatenation]
        rw [hconcatenation, Option.isSome_some] at ih
        rw [Option.isSome_some, Alternative.lexemes_cons_cons, Dialect.spaced_cons,
          Dialect.spaced_cons, ih, hword, Dialect.partSeparator, hconcatenation]
        simp

lemma Alternative.printAfter_eq (d : Dialect) (delimiter : List Char) (a : Alternative) :
    Alternative.printAfter d delimiter a =
      ' ' :: (delimiter ++ d.spaced (Alternative.lexemes d.concatenation.isSome a)) := by
  rw [Alternative.spaced_lexemes, Alternative.printAfter]
  simp

lemma Definition.print_eq (d : Dialect) (definition : Definition) :
    definition.print d =
      d.spaced (.ruleAssign :: definition.lexemes d.concatenation.isSome) := by
  have hrest : ∀ alternatives : List Alternative,
      alternatives.flatMap (Alternative.printAfter d d.alternative) =
        d.spaced (alternatives.flatMap fun a =>
          .alternativeSeparator :: Alternative.lexemes d.concatenation.isSome a) := by
    intro alternatives
    rw [Dialect.spaced, List.flatMap_assoc]
    refine List.flatMap_congr fun a _ => ?_
    rw [Alternative.printAfter_eq]
    rfl
  rw [Definition.print, Alternative.printAfter_eq, hrest, Definition.lexemes, Dialect.spaced_cons,
    Dialect.spaced_append, List.cons_append, List.append_assoc]
  rfl

lemma Rule.print_eq (d : Dialect) (r : Rule) :
    r.print d = r.name.print d ++
      d.spaced (.ruleAssign :: r.definition.lexemes d.concatenation.isSome) ++
        d.terminator.print := by
  rw [Rule.print, Definition.print_eq]

/-! ### Reading lines of words -/

namespace Dialect

variable {d : Dialect}

lemma reading_eq_ruleTerminator_iff {lexeme : Lexeme} :
    d.reading lexeme = .ruleTerminator ↔ lexeme = .ruleTerminator := by
  cases lexeme with
  | identifier name =>
    rw [reading]
    split <;> simp
  | _ => rfl

lemma endsWord_spaced {after : List Char} (hafter : EndsWord after) (lexemes : List Lexeme) :
    EndsWord (d.spaced lexemes ++ after) := by
  cases lexemes with
  | nil => exact hafter
  | cons lexeme lexemes => exact endsWord_cons (by decide) _

/-- A word that is written in a rule is read as it is meant to be. -/
lemma Faithful.lexes_word (hd : d.Faithful) {lexeme : Lexeme} (hreadable : lexeme.Readable d)
    (hterminator : lexeme ≠ .ruleTerminator) (hend : lexeme ≠ .endOfInput) {blank after : List Char}
    (hblank : ∀ c ∈ blank, d.isSpace c = true) (hafter : EndsWord after) {rest : List Lexeme}
    (hrest : d.Lexes true after rest) (ruleOpen : Bool) :
    d.Lexes ruleOpen (blank ++ (d.word lexeme ++ after)) (d.reading lexeme :: rest) := by
  refine (hd.spells hreadable hterminator hend).lexes hblank hafter ?_ ruleOpen
  rw [decide_eq_true (mt reading_eq_ruleTerminator_iff.mp hterminator)]
  exact hrest

lemma Faithful.lexes_spaced (hd : d.Faithful) {lexemes : List Lexeme}
    (h : ∀ lexeme ∈ lexemes,
      lexeme.Readable d ∧ lexeme ≠ .ruleTerminator ∧ lexeme ≠ .endOfInput)
    {after : List Char} (hafter : EndsWord after) {rest : List Lexeme}
    (hrest : d.Lexes true after rest) :
    d.Lexes true (d.spaced lexemes ++ after) (lexemes.map d.reading ++ rest) := by
  induction lexemes with
  | nil => exact hrest
  | cons lexeme lexemes ih =>
    rw [List.forall_mem_cons] at h
    obtain ⟨⟨hreadable, hterminator, hend⟩, h⟩ := h
    have hword := hd.lexes_word hreadable hterminator hend d.isSpace_blank
      (endsWord_spaced hafter lexemes) (ih h) true
    simpa [spaced_cons] using hword

/-- A faithful dialect reads a printed grammar as the lexemes of the grammar. -/
theorem Faithful.lexes_print (hd : d.Faithful) {rules : List Rule}
    (h : ∀ r ∈ rules, ∀ lexeme ∈ r.lexemes d.concatenation.isSome, lexeme.Readable d)
    {blank : List Char} (hblank : ∀ c ∈ blank, d.isSpace c = true) :
    d.Lexes false (blank ++ rules.flatMap fun r => r.print d ++ ['\n'])
      ((rules.flatMap (Rule.lexemes d.concatenation.isSome)).map d.reading) := by
  -- The space in front is general: where a line break ends no rule, the one after a rule is space.
  induction rules generalizing blank with
  | nil =>
    rw [List.flatMap_nil, List.append_nil]
    exact lexes_space hblank
  | cons r rules ih =>
    rw [List.forall_mem_cons] at h
    obtain ⟨hr, hrules⟩ := h
    have hnext : (rules.flatMap fun r => r.print d ++ ['\n']) = [] ∨
        ∃ name : Name, name.print d <+: rules.flatMap fun r => r.print d ++ ['\n'] := by
      cases rules with
      | nil => exact .inl rfl
      | cons next rules =>
        refine .inr ⟨next.name, ?_⟩
        rw [List.flatMap_cons, Rule.print, List.append_assoc, List.append_assoc, List.append_assoc]
        exact List.prefix_append _ _
    have hrest := hd.endsRule hnext fun _ hblank => ih hrules hblank
    have hafter : EndsWord (d.terminator.print ++
        '\n' :: rules.flatMap fun r => r.print d ++ ['\n']) := by
      cases d.terminator with
      | lineBreak => exact endsWord_cons (by decide) _
      | symbol text => exact endsWord_cons (by decide) _
    have hlexemes : ∀ lexeme ∈ .ruleAssign :: r.definition.lexemes d.concatenation.isSome,
        lexeme.Readable d ∧ lexeme ≠ .ruleTerminator ∧ lexeme ≠ .endOfInput := by
      intro lexeme hmem
      rcases List.mem_cons.mp hmem with rfl | hmem
      · exact ⟨trivial, by simp, by simp⟩
      · exact ⟨hr lexeme (Rule.mem_lexemes_iff.mpr (.inr (.inr (.inl hmem)))),
          Definition.ne_of_mem_lexemes hmem⟩
    have hdefinition := hd.lexes_spaced hlexemes hafter hrest
    have hname := hd.lexes_word (hr (.identifier r.name) (Rule.mem_lexemes_iff.mpr (.inl rfl)))
      (by simp) (by simp) hblank (endsWord_spaced hafter _) hdefinition false
    simpa [Rule.print_eq, Rule.lexemes, word, reading] using hname

end Dialect

/-! ### Round trips -/

variable {d : Dialect} {g : Grammar}

/-- What is read holds only what tokens can hold. -/
lemma Grammar.readable_of_parse {source : List Char} (h : Grammar.parse d source = .ok g) :
    (∀ lexeme ∈ g.lexemes d.concatenation.isSome, lexeme.Readable d) ∧ g.EpsilonAlone := by
  obtain ⟨⟨htokens, _⟩, hepsilon⟩ := Grammar.parse_eq_ok_iff.mp h
  refine ⟨fun lexeme hmem => ?_, hepsilon⟩
  rw [← htokens] at hmem
  obtain ⟨token, htoken, rfl⟩ := List.mem_map.mp hmem
  exact (Lexer.readable_of_mem_stream htoken).1

/-- A grammar is read back from its print when each of its lexemes can be read and is read as
itself. -/
theorem Dialect.Faithful.parse_print_iff (hd : d.Faithful) :
    Grammar.parse d (g.print d) = .ok g ↔
      (∀ lexeme ∈ g.lexemes d.concatenation.isSome,
        lexeme.Readable d ∧ d.reading lexeme = lexeme) ∧ g.EpsilonAlone := by
  have hprint : (∀ lexeme ∈ g.lexemes d.concatenation.isSome, lexeme.Readable d) →
      (Lexer.ofSource d (g.print d)).stream.Holds
        ((g.lexemes d.concatenation.isSome).map d.reading) := by
    intro hreadable
    have hrules : ∀ r ∈ g.rules, ∀ lexeme ∈ r.lexemes d.concatenation.isSome,
        lexeme.Readable d := by
      intro r hr lexeme hlexeme
      exact hreadable lexeme (List.mem_flatMap.mpr ⟨r, hr, hlexeme⟩)
    have hblank : ∀ c ∈ [], d.isSpace c = true := List.forall_mem_nil _
    exact hd.lexes_print hrules hblank (g.print d) .start
  constructor
  · intro h
    obtain ⟨hreadable, hepsilon⟩ := Grammar.readable_of_parse h
    have hsame := (hprint hreadable).unique (Grammar.parse_eq_ok_iff.mp h).1
    rw [← List.map_id (g.lexemes _), List.map_map] at hsame
    refine ⟨fun lexeme hmem => ⟨hreadable lexeme hmem, ?_⟩, hepsilon⟩
    exact List.map_inj_left.mp hsame lexeme hmem
  · rintro ⟨h, hepsilon⟩
    have hholds := hprint fun lexeme hmem => (h lexeme hmem).1
    rw [List.map_congr_left fun lexeme hmem => (h lexeme hmem).2, List.map_id'] at hholds
    exact Grammar.parse_eq_ok_iff.mpr ⟨hholds, hepsilon⟩

end TypedGrammar
