import TypedGrammar.Proofs.ParsedGrammar

/-!
# Lexed text

What a lexer yields depends on the text before it and on whether a rule is open, and not on how it
got there. `Lexes` says what text yields. A word that `Spells` a lexeme yields it after any space
and before anything that cannot belong to a name.
-/

namespace TypedGrammar

namespace Dialect

/-- Every lexer before the text yields the lexemes, and then the end of the input. -/
def Lexes (d : Dialect) (ruleOpen : Bool) (text : List Char) (lexemes : List Lexeme) : Prop :=
  ∀ source position,
    (Lexer.mk d source ⟨text, position⟩ ruleOpen false).stream.Holds lexemes

/-- No character of a name can be read on from the end of a word into the text after it. -/
def EndsWord (after : List Char) : Prop :=
  ∀ c ∈ after.head?, isNameChar c = false

lemma endsWord_cons {c : Char} (h : isNameChar c = false) (after : List Char) :
    EndsWord (c :: after) := by
  rintro _ ⟨⟩
  exact h

lemma isSpace_blank (d : Dialect) : ∀ c ∈ [' '], d.isSpace c = true := by
  have hspace : Unicode.isWhiteSpace ' ' = true := by decide
  exact List.forall_mem_singleton.mpr (by simp [isSpace, hspace, isLineBreak])

/-- The word is read as the lexeme, whatever follows that ends a word. -/
structure Spells (d : Dialect) (lexeme : Lexeme) (word : List Char) : Prop where
  ne_nil : word ≠ []
  ne_endOfInput : lexeme ≠ .endOfInput
  trivia? : ∀ after, d.trivia? (word ++ after) = none
  scan : ∀ after, EndsWord after → d.scan (word ++ after) = .ok (lexeme, word.length)

/-! ### Trivia -/

lemma isLineBreak_eq_false {c : Char} (h : Unicode.isWhiteSpace c = false) :
    isLineBreak c = false := by
  rw [← Bool.not_eq_true]
  intro hbreak
  simp only [isLineBreak, Bool.or_eq_true, beq_iff_eq] at hbreak
  rcases hbreak with rfl | rfl <;> exact absurd h (by decide)

lemma commentLength_eq_zero {d : Dialect} {c : Char} {text : List Char}
    (hcomment : ∀ mark ∈ d.comment, mark.head? ≠ some c) : d.commentLength (c :: text) = 0 := by
  unfold commentLength
  split
  · rename_i mark hmark
    refine if_neg ?_
    rintro ⟨hne, hprefix⟩
    obtain ⟨first, mark, rfl⟩ := List.exists_cons_of_ne_nil hne
    rw [List.isPrefixOf_iff_prefix, List.cons_prefix_cons] at hprefix
    exact hcomment _ hmark (by rw [List.head?_cons, hprefix.1])
  · rfl

lemma trivia?_eq_none_of_commentLength {d : Dialect} {c : Char} {text : List Char}
    (hspace : Unicode.isWhiteSpace c = false) (hcomment : d.commentLength (c :: text) = 0) :
    d.trivia? (c :: text) = none := by
  have hbreak : d.lineBreakLength (c :: text) = 0 := by
    unfold lineBreakLength
    split
    · rw [List.takeWhile_cons, isLineBreak_eq_false hspace]
      rfl
    · rfl
  have hnospace : d.isSpace c = false := by simp [isSpace, hspace]
  rw [trivia?, List.takeWhile_cons, hnospace, hcomment, hbreak]
  rfl

/-- Only white space and the mark of a comment begin trivia. -/
lemma trivia?_eq_none {d : Dialect} {c : Char} {text : List Char}
    (hspace : Unicode.isWhiteSpace c = false) (hcomment : ∀ mark ∈ d.comment, mark.head? ≠ some c) :
    d.trivia? (c :: text) = none :=
  trivia?_eq_none_of_commentLength hspace (commentLength_eq_zero hcomment)

lemma trivia?_nil (d : Dialect) : d.trivia? [] = none := by
  have hcomment := d.commentLength_le []
  have hbreak : d.lineBreakLength [] = 0 := by
    unfold lineBreakLength
    split <;> rfl
  rw [List.length_nil, Nat.le_zero] at hcomment
  rw [trivia?, List.takeWhile_nil, hcomment, hbreak]
  rfl

lemma skipTrivia_of_none {d : Dialect} {crossed : Option Position} {cursor : Cursor}
    (h : d.trivia? cursor.rest = none) : d.skipTrivia crossed cursor = (crossed, cursor) := by
  rw [skipTrivia]
  split
  · rfl
  · rename_i hsome
    rw [h] at hsome
    cases hsome

lemma skipTrivia_of_some {d : Dialect} {crossed : Option Position} {cursor : Cursor} {t : Trivia}
    {n : Nat} (h : d.trivia? cursor.rest = some (t, n)) :
    d.skipTrivia crossed cursor =
      d.skipTrivia (if t = .lineBreak then crossed.or (some cursor.position) else crossed)
        (cursor.skip n) := by
  conv_lhs => rw [skipTrivia]
  split
  · rename_i hnone
    rw [h] at hnone
    cases hnone
  · rename_i hsome
    cases h.symm.trans hsome
    rfl

lemma takeWhile_isSpace_of_trivia? {d : Dialect} {text : List Char} (h : d.trivia? text = none) :
    text.takeWhile d.isSpace = [] := by
  by_contra hne
  rw [trivia?, if_pos (List.length_pos_iff.mpr hne)] at h
  cases h

lemma lineBreakLength_of_trivia? {d : Dialect} {text : List Char} (h : d.trivia? text = none) :
    d.lineBreakLength text = 0 := by
  by_contra hne
  rw [trivia?, takeWhile_isSpace_of_trivia? h, if_neg (by simp)] at h
  split at h
  · cases h
  · rw [if_pos (Nat.pos_of_ne_zero hne)] at h
    cases h

/-- Where line breaks can end rules, one before a token is trivia of its own. -/
lemma trivia?_lineBreak {d : Dialect} (hd : d.lineOriented = true)
    (hcomment : ∀ mark ∈ d.comment, mark.head? ≠ some '\n') {text : List Char}
    (h : d.trivia? text = none) : d.trivia? ('\n' :: text) = some (.lineBreak, 1) := by
  have hnospace : d.isSpace '\n' = false := by simp [isSpace, hd, isLineBreak]
  have hbreak : d.lineBreakLength ('\n' :: text) = 1 := by
    have hrest := lineBreakLength_of_trivia? h
    rw [lineBreakLength, if_pos hd] at hrest ⊢
    rw [List.takeWhile_cons_of_pos (by rfl), List.length_cons, hrest]
  rw [trivia?, List.takeWhile_cons, hnospace, commentLength_eq_zero hcomment, hbreak]
  rfl

lemma trivia?_space {d : Dialect} {blank text : List Char} (hne : blank ≠ [])
    (hblank : ∀ c ∈ blank, d.isSpace c = true) (h : d.trivia? text = none) :
    d.trivia? (blank ++ text) = some (.space, blank.length) := by
  have htake : (blank ++ text).takeWhile d.isSpace = blank := by
    rw [List.takeWhile_append_of_pos hblank, takeWhile_isSpace_of_trivia? h, List.append_nil]
  rw [trivia?, htake, if_pos (List.length_pos_iff.mpr hne)]

/-- Space before a token is skipped. -/
lemma skipTrivia_space {d : Dialect} {blank text : List Char}
    (hblank : ∀ c ∈ blank, d.isSpace c = true) (h : d.trivia? text = none)
    (crossed : Option Position) (position : Position) :
    d.skipTrivia crossed ⟨blank ++ text, position⟩ = (crossed, ⟨text, position.advance blank⟩) := by
  by_cases hne : blank = []
  · subst hne
    exact skipTrivia_of_none h
  · rw [skipTrivia_of_some (trivia?_space hne hblank h), if_neg (by simp)]
    have hskip : Cursor.skip ⟨blank ++ text, position⟩ blank.length =
        ⟨text, position.advance blank⟩ := by simp [Cursor.skip]
    rw [hskip]
    exact skipTrivia_of_none h

end Dialect

/-! ### Streams -/

namespace Lexer

lemma stream_of_endOfInput {l after : Lexer} {position : Position}
    (h : l.next? = (some (.ok ⟨.endOfInput, position⟩), after)) :
    l.stream = ⟨[], .endOfInput position⟩ := by
  rw [stream, h]
  exact if_pos rfl

lemma stream_of_token {l after : Lexer} {token : Token} (h : l.next? = (some (.ok token), after))
    (htoken : token.lexeme ≠ .endOfInput) (hsize : after.size < l.size) :
    l.stream = after.stream.cons token := by
  rw [stream, h]
  dsimp only
  rw [if_neg htoken, dif_pos hsize]

lemma read_of_scan {l : Lexer} {crossed : Option Position} {cursor : Cursor} {lexeme : Lexeme}
    {n : Nat} (hskip : l.dialect.skipTrivia none l.cursor = (crossed, cursor))
    (hrule : l.ruleEnd? crossed cursor = none)
    (hscan : l.dialect.scan cursor.rest = .ok (lexeme, n)) (hlexeme : lexeme ≠ .endOfInput) :
    l.read = (.ok ⟨lexeme, cursor.position⟩,
      { l with cursor := cursor.skip n, ruleOpen := lexeme ≠ .ruleTerminator }) := by
  rw [read_of_skipTrivia hskip, readFrom, hrule, hscan]
  cases lexeme <;> first | rfl | exact absurd rfl hlexeme

lemma read_of_ruleEnd {l : Lexer} {crossed : Option Position} {cursor : Cursor}
    {position : Position} (hskip : l.dialect.skipTrivia none l.cursor = (crossed, cursor))
    (hrule : l.ruleEnd? crossed cursor = some position) :
    l.read = (.ok ⟨.ruleTerminator, position⟩, { l with cursor := cursor, ruleOpen := false }) := by
  rw [read_of_skipTrivia hskip, readFrom, hrule]

lemma next?_of_read {l after : Lexer} {result : Except LexError Token} (hl : l.stopped = false)
    (h : l.read = (result, after)) : l.next? = (some result, after) := by
  rw [next?, h, hl]
  rfl

end Lexer

lemma TokenStream.Holds.cons {s : TokenStream} {lexemes : List Lexeme} (h : s.Holds lexemes)
    (token : Token) : (s.cons token).Holds (token.lexeme :: lexemes) := by
  obtain ⟨rfl, hending⟩ := h
  exact ⟨rfl, hending⟩

lemma TokenStream.Holds.unique {s : TokenStream} {lexemes lexemes' : List Lexeme}
    (h : s.Holds lexemes) (h' : s.Holds lexemes') : lexemes = lexemes' :=
  h.1.symm.trans h'.1

namespace Dialect

lemma lexes_space {d : Dialect} {blank : List Char} (hblank : ∀ c ∈ blank, d.isSpace c = true) :
    d.Lexes false blank [] := by
  intro source position
  have hskip := skipTrivia_space hblank d.trivia?_nil none position
  rw [List.append_nil] at hskip
  have hread : (Lexer.mk d source ⟨blank, position⟩ false false).read.1 =
      .ok ⟨.endOfInput, position.advance blank⟩ := by
    rw [Lexer.read_of_skipTrivia (l := ⟨d, source, ⟨blank, position⟩, false, false⟩) hskip]
    rfl
  have hnext : (Lexer.mk d source ⟨blank, position⟩ false false).next? =
      (some (.ok ⟨.endOfInput, position.advance blank⟩), _) := Prod.ext (congrArg some hread) rfl
  rw [Lexer.stream_of_endOfInput hnext]
  exact ⟨rfl, _, rfl⟩

/-- A word is read, and reading goes on after it. -/
lemma Spells.lexes {d : Dialect} {lexeme : Lexeme} {word : List Char} (h : d.Spells lexeme word)
    {blank after : List Char} (hblank : ∀ c ∈ blank, d.isSpace c = true) (hafter : EndsWord after)
    {lexemes : List Lexeme} (hrest : d.Lexes (lexeme ≠ .ruleTerminator) after lexemes)
    (ruleOpen : Bool) : d.Lexes ruleOpen (blank ++ (word ++ after)) (lexeme :: lexemes) := by
  intro source position
  obtain ⟨first, word, rfl⟩ := List.exists_cons_of_ne_nil h.ne_nil
  have hskip := skipTrivia_space hblank (h.trivia? after) none position
  have hread := Lexer.read_of_scan
    (l := ⟨d, source, ⟨blank ++ (first :: word ++ after), position⟩, ruleOpen, false⟩) hskip
    (by simp [Lexer.ruleEnd?]) (h.scan after hafter) h.ne_endOfInput
  have hcursor :
      Cursor.skip ⟨first :: word ++ after, position.advance blank⟩ (first :: word).length =
        ⟨after, (position.advance blank).advance (first :: word)⟩ := by simp [Cursor.skip]
  rw [hcursor] at hread
  rw [Lexer.stream_of_token (Lexer.next?_of_read rfl hread) h.ne_endOfInput]
  · exact (hrest source _).cons _
  · simp only [Lexer.size, List.length_append, List.length_cons]
    split <;> omega

/-- A line break ends the open rule, unless the next line goes on with an alternative. -/
lemma lexes_lineBreak {d : Dialect} (hd : d.lineOriented = true)
    (hcomment : ∀ mark ∈ d.comment, mark.head? ≠ some '\n') {text : List Char}
    (htrivia : d.trivia? text = none) (halternative : ¬ d.alternative <+: text)
    {lexemes : List Lexeme} (hrest : d.Lexes false text lexemes) :
    d.Lexes true ('\n' :: text) (.ruleTerminator :: lexemes) := by
  intro source position
  have hskip : d.skipTrivia none ⟨'\n' :: text, position⟩ =
      (some position, ⟨text, position.advance ['\n']⟩) := by
    rw [skipTrivia_of_some (trivia?_lineBreak hd hcomment htrivia)]
    exact skipTrivia_of_none htrivia
  let l : Lexer := ⟨d, source, ⟨'\n' :: text, position⟩, true, false⟩
  have hrule : l.ruleEnd? (some position) ⟨text, position.advance ['\n']⟩ = some position := by
    simp [l, Lexer.ruleEnd?, halternative]
  have hread := Lexer.read_of_ruleEnd hskip hrule
  rw [Lexer.stream_of_token (Lexer.next?_of_read rfl hread) (by simp)]
  · exact (hrest source _).cons _
  · simp only [l, Lexer.size, List.length_cons]
    split <;> omega

end Dialect

end TypedGrammar
