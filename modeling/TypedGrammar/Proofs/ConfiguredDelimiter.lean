import TypedGrammar.Grammar.Printer
import TypedGrammar.Proofs.ScannedWord

/-!
# Configured delimiters

Whatever its delimiters are, a dialect reads each of them as what it stands for, if none begins another and
none is taken for a literal or for a name in brackets. The marker of the empty part has two ways to be read:
one that reads like a name is looked for among the bare names. No bare name begins with a hyphen, though a
hyphen can go on in one, and so such a marker is never found if it begins with a hyphen.
-/

namespace TypedGrammar.Dialect

open Unicode

/-- The delimiters that are read as tokens, each with its lexeme. -/
def delimiterTokens (d : Dialect) : List (Lexeme × List Char) :=
  [(.ruleAssign, d.assign), (.alternativeSeparator, d.alternative), (.epsilonMarker, d.epsilon)] ++
    d.concatenation.toList.map (Prod.mk .sequenceSeparator) ++
    match d.terminator with
    | .symbol text => [(.ruleTerminator, text)]
    | .lineBreak => []

/-- Neither text begins the other. -/
def Diverge (text other : List Char) : Prop :=
  ¬ text <+: other ∧ ¬ other <+: text
  deriving Decidable

/-- The delimiters hold no white space, begin no other token, and can be told from each other and from what
begins a comment. -/
structure Separable (d : Dialect) : Prop where
  ne_nil : ∀ delimiter ∈ d.delimiterTokens, delimiter.2 ≠ []
  unspaced : ∀ delimiter ∈ d.delimiterTokens, ∀ c ∈ delimiter.2, isWhiteSpace c = false
  unquoted : ∀ delimiter ∈ d.delimiterTokens, ∀ c ∈ d.quotes ++ d.brackets.toList.map Prod.fst,
    delimiter.2.head? ≠ some c
  apart : d.delimiterTokens.Pairwise fun delimiter other => Diverge delimiter.2 other.2
  uncommented : ∀ delimiter ∈ d.delimiterTokens, ∀ mark ∈ d.comment, Diverge mark delimiter.2

/-- The marker of the empty part could be the end of a name but is none, since it begins with a hyphen. -/
def HyphenMarked (d : Dialect) : Prop :=
  d.epsilon.all isNameChar = true ∧ d.epsilon.head? = some '-'

/-- Before the word and a space, a lexer yields the lexeme and has read the word and no more. -/
def Recognizes (d : Dialect) (lexeme : Lexeme) (word : List Char) : Prop :=
  (Lexer.ofSource d (word ++ [' '])).next?.1 = some (.ok ⟨lexeme, .start⟩) ∧
    (Lexer.ofSource d (word ++ [' '])).next?.2.cursor = ⟨[' '], Position.start.advance word⟩

variable {d : Dialect} {delimiter other : Lexeme × List Char} {lexeme : Lexeme}
  {text after word : List Char} {c : Char}

/-! ### Which delimiter is found -/

lemma Diverge.not_prefix_append (h : Diverge text word) (after : List Char) :
    ¬ text <+: word ++ after := by
  intro hprefix
  rcases List.prefix_or_prefix_of_prefix hprefix (List.prefix_append word after) with h' | h'
  · exact h.1 h'
  · exact h.2 h'

lemma mem_delimiterTokens_iff : (lexeme, word) ∈ d.delimiterTokens ↔
    (lexeme = .ruleAssign ∧ word = d.assign) ∨
    (lexeme = .alternativeSeparator ∧ word = d.alternative) ∨
    (lexeme = .epsilonMarker ∧ word = d.epsilon) ∨
    (lexeme = .sequenceSeparator ∧ d.concatenation = some word) ∨
    (lexeme = .ruleTerminator ∧ d.terminator = .symbol word) := by
  rw [delimiterTokens]
  cases d.terminator <;> simp [eq_comm, and_comm]

lemma epsilon_mem_delimiterTokens (d : Dialect) :
    (.epsilonMarker, d.epsilon) ∈ d.delimiterTokens := by
  simp [mem_delimiterTokens_iff]

/-- All delimiters are looked for, apart from a marker of the empty part that reads like a name. -/
lemma mem_keywords_iff : delimiter ∈ d.keywords ↔ delimiter ∈ d.delimiterTokens ∧
    (delimiter.1 = .epsilonMarker → d.epsilon.all isNameChar = false) := by
  obtain ⟨lexeme, word⟩ := delimiter
  rw [mem_delimiterTokens_iff, keywords]
  cases d.terminator <;> cases d.concatenation <;> cases d.epsilon.all isNameChar <;>
    cases lexeme <;> simp [eq_comm]

lemma Separable.eq_of_prefix (hd : d.Separable) (hdelimiter : delimiter ∈ d.delimiterTokens)
    (hother : other ∈ d.delimiterTokens) (h : other.2 <+: delimiter.2 ++ after) :
    other = delimiter := by
  have : Std.Symm fun delimiter other : Lexeme × List Char => Diverge delimiter.2 other.2 :=
    ⟨fun _ _ h => h.symm⟩
  by_contra hne
  exact (hd.apart.forall hother hdelimiter hne).not_prefix_append after h

lemma Separable.keyword?_eq (hd : d.Separable) (h : delimiter ∈ d.keywords) (after : List Char) :
    d.keyword? (delimiter.2 ++ after) = some (delimiter.1, delimiter.2.length) := by
  cases hfound : d.keyword? (delimiter.2 ++ after) with
  | none => exact absurd (List.prefix_append _ _) (keyword?_eq_none_iff.mp hfound delimiter h)
  | some token =>
    obtain ⟨keyword, hfind, rfl⟩ := Option.map_eq_some_iff.mp hfound
    have hprefix : keyword.2 <+: delimiter.2 ++ after := by simpa using List.find?_some hfind
    rw [hd.eq_of_prefix (mem_keywords_iff.mp h).1
      (mem_keywords_iff.mp (List.mem_of_find?_eq_some hfind)).1 hprefix]

lemma Separable.keyword?_eq_none (hd : d.Separable) (hdelimiter : delimiter ∈ d.delimiterTokens)
    (h : delimiter ∉ d.keywords) (after : List Char) : d.keyword? (delimiter.2 ++ after) = none := by
  rw [keyword?_eq_none_iff]
  intro keyword hkeyword hprefix
  rw [hd.eq_of_prefix hdelimiter (mem_keywords_iff.mp hkeyword).1 hprefix] at hkeyword
  exact h hkeyword

/-- No trivia begins where a delimiter does. -/
lemma Separable.trivia?_eq_none (hd : d.Separable) (h : delimiter ∈ d.delimiterTokens)
    (after : List Char) : d.trivia? (delimiter.2 ++ after) = none := by
  obtain ⟨c, word, hword⟩ := List.exists_cons_of_ne_nil (hd.ne_nil delimiter h)
  have hspace : isWhiteSpace c = false := hd.unspaced delimiter h c (by simp [hword])
  have hcomment : d.commentLength (delimiter.2 ++ after) = 0 := by
    unfold commentLength
    split
    · rename_i mark hmark
      have hprefix := (hd.uncommented delimiter h mark hmark).not_prefix_append after
      exact if_neg fun hmark => hprefix (List.isPrefixOf_iff_prefix.mp hmark.2)
    · rfl
  rw [hword, List.cons_append] at hcomment ⊢
  exact trivia?_eq_none_of_commentLength hspace hcomment

/-! ### Reading a delimiter -/

lemma scan_eq_scanBare (hfirst : c ∉ d.quotes ++ d.brackets.toList.map Prod.fst)
    (h : d.keyword? (c :: text) = none) : d.scan (c :: text) = d.scanBare c text := by
  rw [scan, h]
  dsimp only
  rw [if_neg fun hc => hfirst (List.mem_append_left _ hc)]
  split
  · rename_i opening closing hbrackets
    rw [if_neg]
    rintro rfl
    exact hfirst (List.mem_append_right _ (by simp [hbrackets]))
  · rfl

/-- A marker that reads like a name is left to the bare names. -/
lemma Separable.scan_epsilon (hd : d.Separable) (hname : d.epsilon.all isNameChar = true)
    (hepsilon : d.epsilon = c :: word) (after : List Char) :
    d.scan (d.epsilon ++ after) = d.scanBare c (word ++ after) := by
  have hmem := epsilon_mem_delimiterTokens d
  have hnot : (.epsilonMarker, d.epsilon) ∉ d.keywords := by simp [mem_keywords_iff, hname]
  have hkeyword := hd.keyword?_eq_none hmem hnot after
  have hfirst : c ∉ d.quotes ++ d.brackets.toList.map Prod.fst :=
    fun hc => hd.unquoted _ hmem c hc (by rw [hepsilon, List.head?_cons])
  rw [hepsilon, List.cons_append] at hkeyword ⊢
  exact scan_eq_scanBare hfirst hkeyword

lemma Separable.scan_hyphenMarked (hd : d.Separable) (h : d.HyphenMarked) (after : List Char) :
    d.scan (d.epsilon ++ after) = .error (.illegalCharacter '-', 0) := by
  obtain ⟨hname, hhead⟩ := h
  obtain ⟨word, hepsilon⟩ := List.head?_eq_some_iff.mp hhead
  rw [hd.scan_epsilon hname hepsilon, scanBare, if_neg (by decide)]

lemma isNameStart_of_isNameChar (h : isNameChar c = true) (hc : c ≠ '-') : isNameStart c = true := by
  simpa [isNameChar, isNameStart, hc] using h

/-- A delimiter is read as what it stands for, whatever follows that ends a word. -/
theorem Separable.spells (hd : d.Separable) (h : (lexeme, word) ∈ d.delimiterTokens)
    (hmarked : ¬ (lexeme = .epsilonMarker ∧ d.HyphenMarked)) : d.Spells lexeme word where
  ne_nil := hd.ne_nil _ h
  ne_endOfInput := by
    rintro rfl
    simp [mem_delimiterTokens_iff] at h
  trivia? := hd.trivia?_eq_none h
  scan := by
    intro after hafter
    by_cases hmarker : lexeme = .epsilonMarker ∧ d.epsilon.all isNameChar = true
    · obtain ⟨rfl, hname⟩ := hmarker
      obtain rfl : word = d.epsilon := by simpa [mem_delimiterTokens_iff] using h
      obtain ⟨c, word, hword⟩ := List.exists_cons_of_ne_nil (hd.ne_nil _ h)
      dsimp only at hword
      have hchars : ∀ b ∈ c :: word, isNameChar b = true := by
        rw [← hword]
        exact List.all_eq_true.mp hname
      obtain ⟨hc, hrest⟩ := List.forall_mem_cons.mp hchars
      have hne : c ≠ '-' := by
        rintro rfl
        exact hmarked ⟨rfl, hname, by rw [hword, List.head?_cons]⟩
      rw [hd.scan_epsilon hname hword, scanBare, if_pos (isNameStart_of_isNameChar hc hne),
        takeWhile_append_of_head hrest hafter, hword]
      simp
    · have hkeyword : (lexeme, word) ∈ d.keywords :=
        mem_keywords_iff.mpr
          ⟨h, fun hlexeme => Bool.eq_false_iff.mpr fun hname => hmarker ⟨hlexeme, hname⟩⟩
      have hfound := hd.keyword?_eq hkeyword after
      obtain ⟨c, rest, rfl⟩ := List.exists_cons_of_ne_nil (hd.ne_nil _ h)
      rw [List.cons_append] at hfound ⊢
      rw [scan, hfound]

/-! ### Lexers before a delimiter -/

lemma next?_ofSource_of_scan {n : ℕ} (htrivia : d.trivia? text = none)
    (hscan : d.scan text = .ok (lexeme, n)) (hlexeme : lexeme ≠ .endOfInput) :
    (Lexer.ofSource d text).next?.1 = some (.ok ⟨lexeme, .start⟩) ∧
      (Lexer.ofSource d text).next?.2.cursor = Cursor.skip ⟨text, .start⟩ n := by
  have hread : (Lexer.ofSource d text).read = _ :=
    Lexer.read_of_scan (skipTrivia_of_none htrivia) (by simp [Lexer.ruleEnd?, Lexer.ofSource]) hscan
      hlexeme
  rw [Lexer.next?_of_read rfl hread]
  exact ⟨rfl, rfl⟩

lemma Spells.recognizes (h : d.Spells lexeme word) : d.Recognizes lexeme word := by
  have hblank : EndsWord [' '] := endsWord_cons (by decide) []
  obtain ⟨htoken, hcursor⟩ :=
    next?_ofSource_of_scan (h.trivia? [' ']) (h.scan [' '] hblank) h.ne_endOfInput
  refine ⟨htoken, ?_⟩
  rw [hcursor]
  simp [Cursor.skip]

lemma Separable.next?_hyphenMarked (hd : d.Separable) (h : d.HyphenMarked) :
    (Lexer.ofSource d (d.epsilon ++ [' '])).next?.1 =
      some (.error ⟨.illegalCharacter '-', .start⟩) := by
  have hskip : d.skipTrivia none ⟨d.epsilon ++ [' '], .start⟩ =
      (none, ⟨d.epsilon ++ [' '], .start⟩) :=
    skipTrivia_of_none (hd.trivia?_eq_none (epsilon_mem_delimiterTokens d) [' '])
  have hread : (Lexer.ofSource d (d.epsilon ++ [' '])).read.1 =
      .error ⟨.illegalCharacter '-', .start⟩ := by
    rw [Lexer.read_of_skipTrivia (l := .ofSource d (d.epsilon ++ [' '])) hskip, Lexer.readFrom]
    dsimp only [Lexer.ruleEnd?, Lexer.ofSource]
    rw [hd.scan_hyphenMarked h]
    rfl
  rw [Lexer.next?]
  exact congrArg some hread

/-- Before any delimiter and a space, a lexer yields what the delimiter stands for and has read no more. The
only exception is a marker of the empty part that begins with a hyphen and has nothing but characters of
names: of this, a lexer calls the hyphen illegal, also where the marker is the print of the empty part. -/
theorem Separable.recognizes_delimiters (hd : d.Separable) :
    (∀ lexeme word, (lexeme, word) ∈ d.delimiterTokens →
      (d.Recognizes lexeme word ↔ ¬ (lexeme = .epsilonMarker ∧ d.HyphenMarked))) ∧
    (d.Recognizes .epsilonMarker (Part.epsilon.print d) ↔ ¬ d.HyphenMarked) ∧
    (d.HyphenMarked → (Lexer.ofSource d (Part.epsilon.print d ++ [' '])).next?.1 =
      some (.error ⟨.illegalCharacter '-', .start⟩)) := by
  have hdelimiters : ∀ lexeme word, (lexeme, word) ∈ d.delimiterTokens →
      (d.Recognizes lexeme word ↔ ¬ (lexeme = .epsilonMarker ∧ d.HyphenMarked)) := by
    intro lexeme word h
    refine ⟨?_, fun hmarked => (hd.spells h hmarked).recognizes⟩
    rintro ⟨htoken, _⟩ ⟨rfl, hmarked⟩
    obtain rfl : word = d.epsilon := by simpa [mem_delimiterTokens_iff] using h
    rw [hd.next?_hyphenMarked hmarked] at htoken
    cases htoken
  have hepsilon := hdelimiters .epsilonMarker d.epsilon (epsilon_mem_delimiterTokens d)
  rw [eq_self, true_and] at hepsilon
  exact ⟨hdelimiters, hepsilon, hd.next?_hyphenMarked⟩

lemma separable_of_all (h : (d.delimiterTokens.all fun delimiter =>
      delimiter.2 != [] && delimiter.2.all (!isWhiteSpace ·) &&
        (d.quotes ++ d.brackets.toList.map Prod.fst).all (delimiter.2.head? != some ·) &&
        d.comment.toList.all fun mark => decide (Diverge mark delimiter.2)) = true)
    (hapart : d.delimiterTokens.Pairwise fun delimiter other => Diverge delimiter.2 other.2) :
    d.Separable := by
  rw [List.all_eq_true] at h
  simp only [Bool.and_eq_true, bne_iff_ne, List.all_eq_true, Bool.not_eq_true', decide_eq_true_eq] at h
  exact ⟨fun x hx => (h x hx).1.1.1, fun x hx => (h x hx).1.1.2, fun x hx => (h x hx).1.2, hapart,
    fun x hx mark hmark => (h x hx).2 mark (Option.mem_toList.mpr hmark)⟩

/-- Words for delimiters, among them a hyphenated one for the empty part. -/
def worded : Dialect :=
  { Dialect.ebnf with
    assign := "is".toList, alternative := "or".toList, epsilon := "no-part".toList }

theorem recognizes_worded : worded.Separable ∧ ¬ worded.HyphenMarked ∧
    worded.Recognizes .alternativeSeparator "or".toList ∧
    worded.Recognizes .epsilonMarker (Part.epsilon.print worded) := by
  have hd : worded.Separable := separable_of_all (by decide) (by decide)
  have hmarked : ¬ worded.HyphenMarked := by
    rintro ⟨_, hhead⟩
    exact absurd hhead (by decide)
  refine ⟨hd, hmarked, ?_, hd.recognizes_delimiters.2.1.mpr hmarked⟩
  exact (hd.recognizes_delimiters.1 _ _ (by decide)).mpr (by simp)

/-- A hyphen marks the empty part. -/
def hyphened : Dialect :=
  { Dialect.ebnf with epsilon := ['-'] }

theorem not_recognizes_hyphen : hyphened.Separable ∧
    (.epsilonMarker, "-".toList) ∈ hyphened.delimiterTokens ∧
    Part.epsilon.print hyphened = "-".toList ∧
    (Lexer.ofSource hyphened "- ".toList).next?.1 =
      some (.error ⟨.illegalCharacter '-', ⟨0, 1, 1⟩⟩) ∧
    ¬ hyphened.Recognizes .epsilonMarker "-".toList := by
  have hread : (Lexer.ofSource hyphened "- ".toList).next?.1 =
      some (.error ⟨.illegalCharacter '-', ⟨0, 1, 1⟩⟩) := by decide +kernel
  refine ⟨separable_of_all (by decide) (by decide), by decide, rfl, hread, ?_⟩
  rintro ⟨htoken, _⟩
  cases hread.symm.trans htoken

end TypedGrammar.Dialect
