import TypedGrammar.Grammar.Printer
import TypedGrammar.Proofs.LexedText

/-!
# Printed lexemes

Each lexeme is written as a word, and the word spells the lexeme again. There is one exception:
without brackets a name can be written like the marker of the empty part, and is then read as it.
-/

namespace TypedGrammar

open Unicode

/-! ### Characters -/

lemma exists_run_of_anyContains {runs : List Run} {n : Nat} (h : Run.anyContains runs n = true) :
    ∃ r ∈ runs, r.first ≤ n ∧ n ≤ r.last := by
  induction runs with
  | nil => cases h
  | cons r runs ih =>
    rw [Run.anyContains] at h
    split at h
    · cases h
    · rcases Bool.or_eq_true_iff.mp h with h | h
      · simp only [Run.contains, Bool.and_eq_true, decide_eq_true_eq] at h
        exact ⟨r, List.mem_cons_self, h.1⟩
      · obtain ⟨r', hr', hn⟩ := ih h
        exact ⟨r', List.mem_cons_of_mem r hr', hn⟩

/-- No character is both alphanumeric and white space. -/
lemma isWhiteSpace_of_isAlphanumeric {c : Char} (h : isAlphanumeric c = true) :
    isWhiteSpace c = false := by
  have hdisjoint : ∀ r ∈ whiteSpaceRuns, ∀ k < r.last + 1 - r.first,
      (Run.anyContains alphabeticRuns (r.first + k) ||
        Run.anyContains numericRuns (r.first + k)) = false := by
    decide +kernel
  rw [← Bool.not_eq_true]
  intro hspace
  -- White space has few runs, and none of them meets a run of the other two properties.
  obtain ⟨r, hr, hfirst, hlast⟩ := exists_run_of_anyContains hspace
  have hnone := hdisjoint r hr (c.toNat - r.first) (by omega)
  rw [Nat.add_sub_cancel' hfirst] at hnone
  exact Bool.false_ne_true (hnone.symm.trans h)

lemma not_mem_of_isAlphanumeric {c : Char} {others : List Char} (h : isAlphanumeric c = true)
    (hothers : others.all (!isAlphanumeric ·) = true) : c ∉ others := by
  intro hmem
  have hc := List.all_eq_true.mp hothers c hmem
  rw [h] at hc
  cases hc

/-! ### Words that are no delimiters -/

namespace Dialect

/-- Neither trivia nor a delimiter begins with the character. -/
structure Plain (d : Dialect) (c : Char) : Prop where
  not_space : isWhiteSpace c = false
  not_comment : ∀ mark ∈ d.comment, mark.head? ≠ some c
  not_keyword : ∀ keyword ∈ d.keywords, keyword.2 ≠ [] ∧ keyword.2.head? ≠ some c

lemma Plain.keyword? {d : Dialect} {c : Char} (h : d.Plain c) (text : List Char) :
    d.keyword? (c :: text) = none := by
  rw [Dialect.keyword?, Option.map_eq_none_iff, List.find?_eq_none]
  rintro ⟨lexeme, word⟩ hmem hprefix
  obtain ⟨hne, hhead⟩ := h.not_keyword _ hmem
  obtain ⟨first, word, rfl⟩ := List.exists_cons_of_ne_nil hne
  rw [List.isPrefixOf_iff_prefix, List.cons_prefix_cons] at hprefix
  exact hhead (by rw [List.head?_cons, hprefix.1])

lemma Plain.scan {d : Dialect} {c : Char} (h : d.Plain c) (text : List Char) :
    d.scan (c :: text) =
      if c ∈ d.quotes then d.scanLiteral c text
      else
        match d.brackets with
        | some (opening, closing) =>
          if c = opening then scanBracketed closing text else d.scanBare c text
        | none => d.scanBare c text := by
  rw [Dialect.scan]
  split
  · rename_i token htoken
    rw [h.keyword?] at htoken
    cases htoken
  · rfl

/-- A word that begins with such a character spells what is scanned from it. -/
lemma Plain.spells {d : Dialect} {c : Char} (h : d.Plain c) {lexeme : Lexeme} {word : List Char}
    (hlexeme : lexeme ≠ .endOfInput)
    (hscan : ∀ after, EndsWord after →
      d.scan (c :: word ++ after) = .ok (lexeme, (c :: word).length)) :
    d.Spells lexeme (c :: word) where
  ne_nil := List.cons_ne_nil c word
  ne_endOfInput := hlexeme
  trivia? := fun _ => trivia?_eq_none h.not_space h.not_comment
  scan := hscan

/-! ### Literals -/

lemma scanBody_append {quote : Char} (hquote : isLineBreak quote = false) {body : List Char}
    (hbody : ∀ c ∈ body, isLineBreak c = false) (hmem : quote ∉ body) (n : Nat)
    (after : List Char) :
    scanBody quote none false n (body ++ quote :: after) = .ok (body, n + body.length + 1) := by
  induction body generalizing n with
  | nil => simp [scanBody, hquote]
  | cons c body ih =>
    obtain ⟨hne, hmem⟩ := List.ne_and_not_mem_of_not_mem_cons hmem
    rw [List.forall_mem_cons] at hbody
    rw [List.cons_append, scanBody, if_neg (by simp [hbody.1]), if_neg (by simp),
      if_neg (by simp [Ne.symm hne]), ih hbody.2 hmem]
    simp only [Except.map, List.length_cons]
    congr 2
    omega

end Dialect

/-- A literal that lacks one of the quotes is written with a quote it lacks. -/
lemma Line.quoteFor_spec {d : Dialect} {text : List Char}
    (h : ∃ quote ∈ d.quotes, quote ∉ text) :
    Line.quoteFor d text ∈ d.quotes ∧ Line.quoteFor d text ∉ text := by
  obtain ⟨quote, hquote, hmem⟩ := h
  cases hfind : d.quotes.find? (!text.contains ·) with
  | none => exact absurd (List.find?_eq_none.mp hfind quote hquote) (by simpa using hmem)
  | some first =>
    have hfirst := List.find?_some hfind
    rw [Line.quoteFor, hfind]
    exact ⟨List.mem_of_find?_eq_some hfind, by simpa using hfirst⟩

namespace Dialect

lemma spells_literal {d : Dialect} (hescape : d.escape = none)
    (hquotes : ∀ quote ∈ d.quotes, d.Plain quote) {text : Line}
    (h : ∃ quote ∈ d.quotes, quote ∉ text.chars) :
    d.Spells (.quotedLiteral text) (text.printLiteral d) := by
  obtain ⟨hquote, hmem⟩ := Line.quoteFor_spec h
  have hprint : text.printLiteral d =
      Line.quoteFor d text.chars :: (text.chars ++ [Line.quoteFor d text.chars]) := by
    have hescape : text.chars.flatMap (Line.escapeChar none (Line.quoteFor d text.chars)) =
        text.chars := List.flatMap_singleton' _
    rw [Line.printLiteral, ‹d.escape = none›, hescape]
    rfl
  rw [hprint]
  generalize Line.quoteFor d text.chars = quote at hquote hmem
  refine (hquotes quote hquote).spells (by simp) fun after _ => ?_
  have hbody := scanBody_append (isLineBreak_eq_false (hquotes quote hquote).not_space)
    (fun c hc => Line.isLineBreak_eq_false hc) hmem 1 after
  rw [List.cons_append, (hquotes quote hquote).scan, if_pos hquote, scanLiteral_eq_ok_iff, hescape,
    List.append_assoc, List.singleton_append, hbody]
  refine ⟨text, ?_, rfl⟩
  simp only [List.length_cons, List.length_append, List.length_nil]
  congr 2
  omega

end Dialect

/-! ### Names -/

lemma Name.mem_joined {separator : List Char} {name : Name} {c : Char}
    (h : c ∈ name.joined separator) :
    c ∈ separator ∨ ∃ fragment ∈ name.fragments, c ∈ fragment.chars := by
  rw [Name.joined] at h
  generalize name.fragments = fragments at h ⊢
  induction fragments with
  | nil => cases h
  | cons first rest ih =>
    cases rest with
    | nil =>
      rw [List.map_singleton, List.intercalate_singleton] at h
      exact .inr ⟨first, List.mem_cons_self, h⟩
    | cons second rest =>
      rw [List.map_cons, List.map_cons, List.intercalate_cons_cons, List.mem_append,
        List.mem_append] at h
      rcases h with (h | h) | h
      · exact .inr ⟨first, List.mem_cons_self, h⟩
      · exact .inl h
      · rcases ih h with hc | ⟨fragment, hfragment, hc⟩
        · exact .inl hc
        · exact .inr ⟨fragment, List.mem_cons_of_mem first hfragment, hc⟩

/-- The first character of a written name is the first of its first fragment. -/
lemma Name.joined_eq_cons (separator : List Char) {name : Name}
    (h : ∀ fragment ∈ name.fragments, fragment.chars ≠ []) :
    ∃ fragment ∈ name.fragments, ∃ c ∈ fragment.chars, ∃ rest,
      name.joined separator = c :: rest := by
  obtain ⟨first, fragments, hname⟩ := List.exists_cons_of_ne_nil name.fragments_ne_nil
  have hfirst : first ∈ name.fragments := by simp [hname]
  obtain ⟨c, chars, hchars⟩ := List.exists_cons_of_ne_nil (h first hfirst)
  refine ⟨first, hfirst, c, by simp [hchars], ?_⟩
  rw [Name.joined, hname, List.map_cons, hchars]
  cases fragments.map Line.chars with
  | nil => exact ⟨_, List.intercalate_singleton⟩
  | cons second rest =>
    rw [List.intercalate_cons_cons, List.cons_append, List.cons_append]
    exact ⟨_, rfl⟩

lemma takeWhile_append_of_head {α : Type} {p : α → Bool} {word after : List α}
    (hword : ∀ c ∈ word, p c = true) (hafter : ∀ c ∈ after.head?, p c = false) :
    (word ++ after).takeWhile p = word := by
  rw [List.takeWhile_append_of_pos hword]
  cases after with
  | nil => simp
  | cons c after => simp [hafter c rfl]

namespace Dialect

lemma spells_bracketed {d : Dialect} {opening closing : Char}
    (hbrackets : d.brackets = some (opening, closing)) (hopening : d.Plain opening)
    (hquotes : opening ∉ d.quotes) (hclosing : isLineBreak closing = false) (hspace : ' ' ≠ closing)
    {name : Name} (h : ∀ fragment ∈ name.fragments,
      Name.IsWord fragment.chars ∧ closing ∉ fragment.chars) :
    d.Spells (.identifier name) (name.print d) := by
  have hprint : name.print d = opening :: (name.joined [' '] ++ [closing]) := by
    rw [Name.print, hbrackets]
    rfl
  rw [hprint]
  refine hopening.spells (by simp) fun after _ => ?_
  have hinner : (name.joined [' '] ++ closing :: after).takeWhile
      (fun c => !isLineBreak c && c != closing) = name.joined [' '] := by
    refine takeWhile_append_of_head (fun c hc => ?_) (by simp)
    rcases Name.mem_joined hc with hc | ⟨fragment, hfragment, hc⟩
    · obtain rfl := List.mem_singleton.mp hc
      simp [hspace, isLineBreak]
    · have hne : c ≠ closing := by
        rintro rfl
        exact (h fragment hfragment).2 hc
      simp [Line.isLineBreak_eq_false hc, hne]
  have hname : Name.ofText? (name.joined [' ']) = .ok name :=
    Name.ofText?_joined rfl fun fragment hf => (h fragment hf).1
  rw [List.cons_append, hopening.scan, if_neg hquotes, hbrackets, List.append_assoc,
    List.singleton_append]
  dsimp only
  rw [if_pos rfl, scanBracketed, hinner, List.drop_left]
  dsimp only
  rw [hclosing, hname]
  simp

lemma spells_bare {d : Dialect} (name : Name) (hbrackets : d.brackets = none)
    (halphanumeric : ∀ c, isAlphanumeric c = true → d.Plain c ∧ c ∉ d.quotes)
    (h : ∀ fragment ∈ name.fragments,
      Name.IsWord fragment.chars ∧ ∀ c ∈ fragment.chars, isAlphanumeric c = true) :
    d.Spells (if name.print d = d.epsilon then .epsilonMarker else .identifier name)
      (name.print d) := by
  have hprint : name.print d = name.joined ['_'] := by rw [Name.print, hbrackets]
  obtain ⟨fragment, hfragment, c, hc, rest, hjoined⟩ :=
    Name.joined_eq_cons ['_'] fun fragment hf => (h fragment hf).1.ne_nil
  have hfirst := (h fragment hfragment).2 c hc
  have hchars : ∀ c' ∈ rest, isNameChar c' = true := by
    intro c' hc'
    have hmem : c' ∈ name.joined ['_'] := by simp [hjoined, hc']
    rcases Name.mem_joined hmem with hmem | ⟨fragment', hfragment', hmem⟩
    · obtain rfl := List.mem_singleton.mp hmem
      simp [isNameChar]
    · simp [isNameChar, (h fragment' hfragment').2 c' hmem]
  have hname : Name.ofText? (name.joined ['_']) = .ok name :=
    Name.ofText?_joined rfl fun fragment hf => (h fragment hf).1
  rw [hjoined] at hname
  rw [hprint, hjoined]
  refine (halphanumeric c hfirst).1.spells (by split <;> simp) fun after hafter => ?_
  rw [List.cons_append, (halphanumeric c hfirst).1.scan, if_neg (halphanumeric c hfirst).2,
    hbrackets]
  dsimp only
  rw [scanBare, if_pos (by simp [isNameStart, hfirst]), takeWhile_append_of_head hchars hafter]
  dsimp only
  split
  · rfl
  · rw [hname]

lemma spells_epsilon {d : Dialect} {c : Char} (hepsilon : d.epsilon = [c])
    (hstart : isNameStart c = true) (hplain : d.Plain c) (hquotes : c ∉ d.quotes)
    (hbrackets : ∀ brackets ∈ d.brackets, c ≠ brackets.1) :
    d.Spells .epsilonMarker d.epsilon := by
  rw [hepsilon]
  refine hplain.spells (by simp) fun after hafter => ?_
  have hscan : d.scanBare c after = .ok (.epsilonMarker, 1) := by
    have hnone : ∀ c ∈ [], isNameChar c = true := List.forall_mem_nil _
    have hword := takeWhile_append_of_head hnone hafter
    rw [List.nil_append] at hword
    rw [scanBare, if_pos hstart, hword, hepsilon]
    simp
  rw [List.singleton_append, hplain.scan, if_neg hquotes]
  split
  · rename_i opening closing hsome
    rw [if_neg (hbrackets _ hsome), hscan]
    rfl
  · rw [hscan]
    rfl

/-! ### Dialects that read what they write -/

/-- How the lexeme is written. -/
def word (d : Dialect) : Lexeme → List Char
  | .identifier name => name.print d
  | .quotedLiteral text => text.printLiteral d
  | .ruleAssign => d.assign
  | .alternativeSeparator => d.alternative
  | .sequenceSeparator => d.concatenation.getD []
  | .epsilonMarker => d.epsilon
  | .ruleTerminator =>
    match d.terminator with
    | .symbol text => text
    | .lineBreak => []
  | .endOfInput => []

/-- What the written lexeme is read as. A bare name that is written like the marker of the empty
part is read as the marker. -/
def reading (d : Dialect) : Lexeme → Lexeme
  | .identifier name =>
    if d.brackets = none ∧ name.print d = d.epsilon then .epsilonMarker else .identifier name
  | lexeme => lexeme

/-- Whatever the dialect writes it reads again, and it reads the end of every written rule. -/
structure Faithful (d : Dialect) : Prop where
  spells : ∀ {lexeme : Lexeme}, lexeme.Readable d → lexeme ≠ .ruleTerminator →
    lexeme ≠ .endOfInput → d.Spells (d.reading lexeme) (d.word lexeme)
  endsRule : ∀ {rest : List Char} {lexemes : List Lexeme},
    (rest = [] ∨ ∃ name : Name, name.print d <+: rest) →
      (∀ blank, (∀ c ∈ blank, d.isSpace c = true) → d.Lexes false (blank ++ rest) lexemes) →
        d.Lexes true (d.terminator.print ++ '\n' :: rest) (.ruleTerminator :: lexemes)

lemma spells_keyword {d : Dialect} {lexeme : Lexeme} (c : Char) (word : List Char)
    (hspace : isWhiteSpace c = false) (hcomment : ∀ mark ∈ d.comment, mark.head? ≠ some c)
    (hlexeme : lexeme ≠ .endOfInput)
    (h : ∀ after, d.keyword? (c :: word ++ after) = some (lexeme, (c :: word).length)) :
    d.Spells lexeme (c :: word) where
  ne_nil := List.cons_ne_nil c word
  ne_endOfInput := hlexeme
  trivia? := fun _ => trivia?_eq_none hspace hcomment
  scan := fun after _ => by rw [List.cons_append, scan, ← List.cons_append, h after]

lemma keywords_bnf :
    bnf.keywords = [(.ruleAssign, [':', ':', '=']), (.alternativeSeparator, ['|'])] := by
  decide

lemma keywords_ebnf :
    ebnf.keywords = [(.ruleTerminator, [';']), (.ruleAssign, ['=']), (.alternativeSeparator, ['|']),
      (.sequenceSeparator, [','])] := by
  decide

lemma plain_bnf {c : Char} (hspace : isWhiteSpace c = false) (h : c ∉ ['#', ':', '|']) :
    bnf.Plain c where
  not_space := hspace
  not_comment := by
    simp only [List.mem_cons, not_or] at h
    simp [bnf, Ne.symm h.1]
  not_keyword := by
    simp only [List.mem_cons, not_or, List.not_mem_nil] at h
    simp [keywords_bnf, Ne.symm h.2.1, Ne.symm h.2.2.1]

lemma plain_ebnf {c : Char} (hspace : isWhiteSpace c = false) (h : c ∉ ['#', ';', '=', '|', ',']) :
    ebnf.Plain c where
  not_space := hspace
  not_comment := by
    simp only [List.mem_cons, not_or] at h
    simp [ebnf, Ne.symm h.1]
  not_keyword := by
    simp only [List.mem_cons, not_or, List.not_mem_nil] at h
    simp [keywords_ebnf, Ne.symm h.2.1, Ne.symm h.2.2.1, Ne.symm h.2.2.2.1, Ne.symm h.2.2.2.2.1]

theorem faithful_bnf : bnf.Faithful where
  spells := by
    intro lexeme hreadable hterminator hend
    cases lexeme with
    | identifier name =>
      have hbrackets : bnf.brackets = some ('<', '>') := rfl
      refine spells_bracketed hbrackets (plain_bnf (by decide) (by decide)) (by decide) (by decide)
        (by decide) fun fragment hfragment => ?_
      obtain ⟨hword, hchars⟩ := hreadable fragment hfragment
      refine ⟨hword, fun hmem => ?_⟩
      rcases hchars '>' hmem with h | ⟨opening, closing, hbrackets, hne⟩
      · exact absurd h (by decide)
      · cases hbrackets
        exact hne rfl
    | quotedLiteral text =>
      refine spells_literal rfl (fun quote hquote => ?_) (hreadable rfl)
      simp only [bnf, List.mem_cons, List.not_mem_nil, or_false] at hquote
      rcases hquote with rfl | rfl <;> exact plain_bnf (by decide) (by decide)
    | ruleAssign =>
      refine spells_keyword ':' [':', '='] (by decide) (by decide) (by simp [reading])
        fun after => ?_
      rw [keyword?, keywords_bnf]
      rfl
    | alternativeSeparator =>
      refine spells_keyword '|' [] (by decide) (by decide) (by simp [reading]) fun after => ?_
      rw [keyword?, keywords_bnf]
      rfl
    | sequenceSeparator => cases hreadable
    | epsilonMarker =>
      exact spells_epsilon (c := 'ε') (by decide) (by decide)
        (plain_bnf (by decide) (by decide)) (by decide) (by decide)
    | ruleTerminator => exact absurd rfl hterminator
    | endOfInput => exact absurd rfl hend
  endsRule := by
    intro rest lexemes hrest hlexes
    have hempty := hlexes [] (List.forall_mem_nil _)
    rcases hrest with rfl | ⟨name, after, rfl⟩
    · exact lexes_lineBreak rfl (by decide) (trivia?_nil bnf) (by decide) hempty
    · refine lexes_lineBreak rfl (by decide) ?_ ?_ hempty
      · exact trivia?_eq_none (by decide) (by decide)
      · intro hprefix
        cases (List.cons_prefix_cons.mp hprefix).1

theorem faithful_ebnf : ebnf.Faithful where
  spells := by
    intro lexeme hreadable hterminator hend
    cases lexeme with
    | identifier name =>
      have hbrackets : ebnf.brackets = none := rfl
      have hspells := spells_bare name hbrackets (fun c hc => ?_) fun fragment hfragment => ?_
      · simpa [reading, word, hbrackets] using hspells
      · exact ⟨plain_ebnf (isWhiteSpace_of_isAlphanumeric hc)
          (not_mem_of_isAlphanumeric hc (by decide)), not_mem_of_isAlphanumeric hc (by decide)⟩
      · obtain ⟨hword, hchars⟩ := hreadable fragment hfragment
        refine ⟨hword, fun c hc => (hchars c hc).resolve_right ?_⟩
        rintro ⟨_, _, hbrackets, _⟩
        cases hbrackets
    | quotedLiteral text =>
      refine spells_literal rfl (fun quote hquote => ?_) (hreadable rfl)
      simp only [ebnf, List.mem_cons, List.not_mem_nil, or_false] at hquote
      rcases hquote with rfl | rfl <;> exact plain_ebnf (by decide) (by decide)
    | ruleAssign =>
      refine spells_keyword '=' [] (by decide) (by decide) (by simp [reading]) fun after => ?_
      rw [keyword?, keywords_ebnf]
      rfl
    | alternativeSeparator =>
      refine spells_keyword '|' [] (by decide) (by decide) (by simp [reading]) fun after => ?_
      rw [keyword?, keywords_ebnf]
      rfl
    | sequenceSeparator =>
      refine spells_keyword ',' [] (by decide) (by decide) (by simp [reading]) fun after => ?_
      rw [keyword?, keywords_ebnf]
      rfl
    | epsilonMarker =>
      exact spells_epsilon (c := 'ε') (by decide) (by decide)
        (plain_ebnf (by decide) (by decide)) (by decide) (by decide)
    | ruleTerminator => exact absurd rfl hterminator
    | endOfInput => exact absurd rfl hend
  endsRule := by
    intro rest lexemes _ hlexes
    have hspells : ebnf.Spells .ruleTerminator [';'] := by
      refine spells_keyword ';' [] (by decide) (by decide) (by simp) fun after => ?_
      rw [keyword?, keywords_ebnf]
      rfl
    have hbreak : ∀ c ∈ ['\n'], ebnf.isSpace c = true := List.forall_mem_singleton.mpr (by decide)
    exact hspells.lexes ebnf.isSpace_blank (endsWord_cons (by decide) rest)
      (hlexes ['\n'] hbreak) true

end Dialect

end TypedGrammar
