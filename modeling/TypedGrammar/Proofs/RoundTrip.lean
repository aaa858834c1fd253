import Mathlib
import TypedGrammar.Proofs.PrintedGrammar

/-!
# Round trips

Which grammars survive being printed and read again. In `bnf` those are the grammars that any source
at all is read as. In `ebnf` names are printed without brackets, so fewer grammars survive, and not
all that are read: a name that is read as the marker of the empty part alone is printed as it.
-/

namespace TypedGrammar

open Unicode

variable {g : Grammar}

/-- Every literal can be put in quotes: it lacks the double or the single quote. -/
def Grammar.Quotable (g : Grammar) : Prop :=
  ∀ text ∈ g.literals, '"' ∉ text.chars ∨ '\'' ∉ text.chars

/-! ### Names in brackets -/

lemma readable_bnf_iff :
    (∀ lexeme ∈ g.lexemes false, lexeme.Readable .bnf) ↔
      (∀ name ∈ g.identifiers, ∀ fragment ∈ name.fragments,
        Name.IsWord fragment.chars ∧ '>' ∉ fragment.chars) ∧ g.Quotable := by
  rw [Grammar.forall_mem_lexemes_iff]
  · refine and_congr ?_ ?_
    · refine forall₂_congr fun name _ => forall₂_congr fun fragment _ => and_congr_right fun _ => ?_
      constructor
      · intro h hmem
        rcases h '>' hmem with h | ⟨opening, closing, hbrackets, hne⟩
        · exact absurd h (by decide)
        · cases hbrackets
          exact hne rfl
      · intro h c hc
        refine .inr ⟨'<', '>', rfl, ?_⟩
        rintro rfl
        exact h hc
    · refine forall₂_congr fun text _ => ?_
      simp [Lexeme.Readable, Dialect.bnf]
  · intro lexeme hpart hseparator
    cases lexeme with
    | sequenceSeparator => cases hseparator rfl
    | identifier name => cases hpart
    | quotedLiteral text => cases hpart
    | _ => exact trivial

lemma reading_bnf (lexeme : Lexeme) : Dialect.bnf.reading lexeme = lexeme := by
  cases lexeme with
  | identifier name =>
    rw [Dialect.reading, if_neg]
    rintro ⟨hbrackets, _⟩
    cases hbrackets
  | _ => rfl

/-- In `bnf` a grammar survives being printed and read again exactly when it can be read at all, and
that is when its names are made of words that do not hold the closing bracket, each of its literals
lacks one of the quotes, and the empty part stands alone. -/
theorem parse_print_bnf_tfae (g : Grammar) :
    List.TFAE [
      Grammar.parse .bnf (g.print .bnf) = .ok g,
      ∃ source, Grammar.parse .bnf source = .ok g,
      (∀ name ∈ g.identifiers, ∀ fragment ∈ name.fragments,
        Name.IsWord fragment.chars ∧ '>' ∉ fragment.chars) ∧ g.Quotable ∧ g.EpsilonAlone] := by
  apply List.tfae_of_cycle
  · simp only [List.isChain_cons_cons, List.isChain_singleton, and_true]
    constructor
    · intro h
      exact ⟨_, h⟩
    · rintro ⟨source, h⟩
      obtain ⟨hreadable, hepsilon⟩ := Grammar.readable_of_parse h
      obtain ⟨hnames, hliterals⟩ := readable_bnf_iff.mp hreadable
      exact ⟨hnames, hliterals, hepsilon⟩
  · rintro ⟨hnames, hliterals, hepsilon⟩
    refine Dialect.faithful_bnf.parse_print_iff.mpr ⟨fun lexeme hmem => ?_, hepsilon⟩
    exact ⟨readable_bnf_iff.mpr ⟨hnames, hliterals⟩ lexeme hmem, reading_bnf lexeme⟩

/-! ### Bare names -/

/-- The name is written bare like the marker of the empty part only if that is its one fragment. -/
lemma reading_ebnf_eq_iff {name : Name} :
    Dialect.ebnf.reading (.identifier name) = .identifier name ↔
      name.fragments.map Line.chars ≠ [Dialect.ebnf.epsilon] := by
  have hprint : name.print .ebnf = Dialect.ebnf.epsilon ↔
      name.fragments.map Line.chars = [Dialect.ebnf.epsilon] := by
    change ['_'].intercalate (name.fragments.map Line.chars) = ['ε'] ↔
      name.fragments.map Line.chars = [['ε']]
    constructor
    · intro h
      generalize name.fragments.map Line.chars = pieces at h
      rcases pieces with _ | ⟨first, _ | ⟨second, rest⟩⟩
      · cases h
      · rw [List.intercalate_singleton] at h
        rw [h]
      · rw [List.intercalate_cons_cons] at h
        have hmem : '_' ∈ first ++ ['_'] ++ ['_'].intercalate (second :: rest) := by simp
        rw [h] at hmem
        exact absurd hmem (by decide)
    · intro h
      rw [h, List.intercalate_singleton]
  rw [Dialect.reading, ne_eq, ← hprint]
  split
  · rename_i h
    simp [h.2]
  · rename_i h
    simpa [Dialect.ebnf] using h

lemma isSeparator_of_isAlphanumeric {c : Char} (h : isAlphanumeric c = true) :
    Name.isSeparator c = false := by
  have hmem : c ∉ [' ', '\t', '_', '-'] := not_mem_of_isAlphanumeric h (by decide)
  simpa [Name.isSeparator, and_assoc] using hmem

lemma readable_ebnf_iff :
    (∀ lexeme ∈ g.lexemes true, lexeme.Readable .ebnf) ↔
      (∀ name ∈ g.identifiers, ∀ fragment ∈ name.fragments, fragment.chars ≠ [] ∧
        (∀ c ∈ fragment.chars, isAlphanumeric c = true) ∧
          fragment.chars.IsChain fun previous c => Name.startsWord previous c = false) ∧
        g.Quotable := by
  rw [Grammar.forall_mem_lexemes_iff]
  · refine and_congr ?_ ?_
    · refine forall₂_congr fun name _ => forall₂_congr fun fragment _ => ?_
      constructor
      · rintro ⟨hword, hchars⟩
        refine ⟨hword.ne_nil, fun c hc => (hchars c hc).resolve_right ?_, hword.uncut⟩
        rintro ⟨opening, closing, hbrackets, _⟩
        cases hbrackets
      · rintro ⟨hne, hchars, huncut⟩
        exact ⟨⟨hne, fun c hc => isSeparator_of_isAlphanumeric (hchars c hc), huncut⟩,
          fun c hc => .inl (hchars c hc)⟩
    · refine forall₂_congr fun text _ => ?_
      simp [Lexeme.Readable, Dialect.ebnf]
  · intro lexeme hpart _
    cases lexeme with
    | sequenceSeparator => rfl
    | identifier name => cases hpart
    | quotedLiteral text => cases hpart
    | _ => exact trivial

lemma forall_reading_ebnf_iff :
    (∀ lexeme ∈ g.lexemes true, Dialect.ebnf.reading lexeme = lexeme) ↔
      ∀ name ∈ g.identifiers, name.fragments.map Line.chars ≠ [Dialect.ebnf.epsilon] := by
  rw [Grammar.forall_mem_lexemes_iff]
  · constructor
    · rintro ⟨h, _⟩ name hname
      exact reading_ebnf_eq_iff.mp (h name hname)
    · intro h
      exact ⟨fun name hname => reading_ebnf_eq_iff.mpr (h name hname), fun _ _ => rfl⟩
  · intro lexeme hpart _
    cases lexeme <;> first | rfl | cases hpart

/-- What is read in `ebnf` survives being printed and read again, unless it has a name that is
written like the marker of the empty part. -/
theorem parse_print_ebnf_of_parse_iff {source : List Char}
    (h : Grammar.parse .ebnf source = .ok g) :
    Grammar.parse .ebnf (g.print .ebnf) = .ok g ↔
      ∀ name ∈ g.identifiers, name.fragments.map Line.chars ≠ [Dialect.ebnf.epsilon] := by
  obtain ⟨hreadable, hepsilon⟩ := Grammar.readable_of_parse h
  rw [Dialect.faithful_ebnf.parse_print_iff, ← forall_reading_ebnf_iff]
  constructor
  · rintro ⟨hsame, _⟩ lexeme hmem
    exact (hsame lexeme hmem).2
  · intro hsame
    exact ⟨fun lexeme hmem => ⟨hreadable lexeme hmem, hsame lexeme hmem⟩, hepsilon⟩

/-- A rule of this name that derives one letter. -/
def letterNamed (name : Name) : Grammar :=
  .single ⟨name, .single [.literal ⟨['x'], by decide⟩]⟩

/-- The written spelling of a name is not kept, but its fragments are. -/
theorem parse_print_ebnf_nonZero :
    let g := letterNamed ⟨[⟨"non".toList, by decide⟩, ⟨"Zero".toList, by decide⟩], by simp⟩
    Grammar.parse .ebnf "_nonZero = 'x';".toList = .ok g ∧
      Grammar.parse .ebnf (g.print .ebnf) = .ok g := by
  intro g
  have h : Grammar.parse .ebnf "_nonZero = 'x';".toList = .ok g := by
    refine Grammar.parse_eq_ok_iff.mpr ⟨⟨by cbv, _, by cbv⟩, ?_⟩
    unfold Grammar.EpsilonAlone Alternative.EpsilonAlone
    decide
  exact ⟨h, (parse_print_ebnf_of_parse_iff h).mpr (by decide)⟩

/-- A name that is read from `_ε` is printed as `ε`, and no rule can begin with that. -/
theorem parse_print_ebnf_epsilon_ne :
    let g := letterNamed ⟨[⟨['ε'], by decide⟩], by simp⟩
    Grammar.parse .ebnf "_ε = \"x\" ;".toList = .ok g ∧
      Grammar.parse .ebnf (g.print .ebnf) ≠ .ok g := by
  intro g
  constructor
  · refine Grammar.parse_eq_ok_iff.mpr ⟨⟨by cbv, _, by cbv⟩, ?_⟩
    unfold Grammar.EpsilonAlone Alternative.EpsilonAlone
    decide
  · intro h
    obtain ⟨hsame, _⟩ := Dialect.faithful_ebnf.parse_print_iff.mp h
    have hreading := (hsame (.identifier ⟨[⟨['ε'], by decide⟩], by simp⟩) (by decide)).2
    exact reading_ebnf_eq_iff.mp hreading rfl

/-- In `ebnf` a grammar survives being printed and read again exactly when its names are made of
alphanumeric words, none of them is the marker of the empty part, each of its literals lacks one of
the quotes, and the empty part stands alone. -/
theorem parse_print_ebnf_iff (g : Grammar) :
    Grammar.parse .ebnf (g.print .ebnf) = .ok g ↔
      (∀ name ∈ g.identifiers, ∀ fragment ∈ name.fragments, fragment.chars ≠ [] ∧
        (∀ c ∈ fragment.chars, isAlphanumeric c = true) ∧
          fragment.chars.IsChain fun previous c => Name.startsWord previous c = false) ∧
        (∀ name ∈ g.identifiers, name.fragments.map Line.chars ≠ [Dialect.ebnf.epsilon]) ∧
          g.Quotable ∧ g.EpsilonAlone := by
  rw [Dialect.faithful_ebnf.parse_print_iff, ← forall_reading_ebnf_iff]
  constructor
  · rintro ⟨h, hepsilon⟩
    obtain ⟨hnames, hliterals⟩ := readable_ebnf_iff.mp fun lexeme hmem => (h lexeme hmem).1
    exact ⟨hnames, fun lexeme hmem => (h lexeme hmem).2, hliterals, hepsilon⟩
  · rintro ⟨hnames, hsame, hliterals, hepsilon⟩
    have hreadable := readable_ebnf_iff.mpr ⟨hnames, hliterals⟩
    exact ⟨fun lexeme hmem => ⟨hreadable lexeme hmem, hsame lexeme hmem⟩, hepsilon⟩

end TypedGrammar
