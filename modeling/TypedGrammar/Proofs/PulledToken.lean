import TypedGrammar.Proofs.YieldedTokens

/-!
# Pulled tokens

Tokens are pulled from a lexer one by one, and before each of them trivia is skipped in a loop: it goes on for as
long as there is trivia, and has no result if it may take no more rounds. It ends unless comments have an empty
mark. What is pulled then are the tokens of the stream one after the other, where every delimiter has characters.
Before a delimiter that has none, the delimiter is pulled again and again.
-/

namespace TypedGrammar

namespace Dialect

/-! ### Rounds of skipping -/

/-- Number of characters of the comment at the beginning of the text, if the mark of comments is there. An
empty mark is anywhere. -/
def comment? (d : Dialect) (text : List Char) : Option ℕ :=
  d.comment.bind fun mark =>
    if mark.isPrefixOf text then
      some (mark.length + ((text.drop mark.length).takeWhile (!isLineBreak ·)).length)
    else
      none

/-- The trivia that one round of skipping takes, and its number of characters. -/
def round? (d : Dialect) (text : List Char) : Option (Trivia × ℕ) :=
  if 0 < (text.takeWhile d.isSpace).length then
    some (.space, (text.takeWhile d.isSpace).length)
  else
    match d.comment? text with
    | some n => some (.comment, n)
    | none =>
      if 0 < d.lineBreakLength text then some (.lineBreak, d.lineBreakLength text) else none

/-- Skips trivia in at most so many rounds, the last of which finds none. -/
def skipRounds (d : Dialect) : ℕ → Option Position → Cursor → Option (Option Position × Cursor)
  | 0, _, _ => none
  | rounds + 1, crossed, cursor =>
    match d.round? cursor.rest with
    | none => some (crossed, cursor)
    | some (t, n) =>
      d.skipRounds rounds (if t = .lineBreak then crossed.or (some cursor.position) else crossed)
        (cursor.skip n)

variable {d : Dialect}

lemma round?_eq (hd : d.comment ≠ some []) (text : List Char) : d.round? text = d.trivia? text := by
  have hcomment : d.comment? text =
      if 0 < d.commentLength text then some (d.commentLength text) else none := by
    unfold comment? commentLength
    cases hmark : d.comment with
    | none => rfl
    | some mark =>
      have hne : mark ≠ [] := by
        rintro rfl
        exact hd hmark
      have hpos : 0 < mark.length := List.length_pos_of_ne_nil hne
      by_cases hprefix : mark.isPrefixOf text = true
      · simp only [Option.bind_some, hprefix, hne, ne_eq, not_false_eq_true, and_self, if_true,
          Nat.add_pos_left hpos]
      · simp only [Option.bind_some, hprefix, and_false, if_false, Nat.lt_irrefl, Bool.false_eq_true]
  rw [round?, trivia?, hcomment]
  split_ifs <;> rfl

/-- Every round but the last takes characters, and so enough rounds skip all trivia. -/
theorem skipRounds_eq (hd : d.comment ≠ some []) {rounds : ℕ} (crossed : Option Position)
    (cursor : Cursor) (h : cursor.rest.length < rounds) :
    d.skipRounds rounds crossed cursor = some (d.skipTrivia crossed cursor) := by
  obtain ⟨rounds, rfl⟩ := Nat.exists_eq_add_one_of_ne_zero (Nat.ne_zero_of_lt h)
  fun_induction skipTrivia d crossed cursor generalizing rounds with
  | case1 crossed cursor hnone =>
    rw [skipRounds, round?_eq hd, hnone]
  | case2 crossed cursor t n hsome ih =>
    rw [skipRounds, round?_eq hd, hsome]
    obtain ⟨hpos, hle⟩ := trivia?_bounds hsome
    obtain ⟨rounds, rfl⟩ := Nat.exists_eq_add_one_of_ne_zero (n := rounds) (by omega)
    exact ih rounds (by rw [Cursor.rest_skip, List.length_drop]; omega)

/-- After a comment with an empty mark there is another one. -/
theorem skipRounds_eq_none (hd : d.comment = some []) (rounds : ℕ) (crossed : Option Position)
    (cursor : Cursor) : d.skipRounds rounds crossed cursor = none := by
  induction rounds generalizing crossed cursor with
  | zero => rfl
  | succ rounds ih =>
    rw [skipRounds]
    cases hround : d.round? cursor.rest with
    | none =>
      rw [round?, comment?, hd] at hround
      split at hround <;> simp at hround
    | some next => exact ih _ _

end Dialect

/-! ### Pulls -/

namespace Lexer

/-- Pulls the next token, with a limit on the rounds of skipping. After the last token there is always the end
of the input. -/
def pull (limit : ℕ) (l : Lexer) : Option (Except LexError Token × Lexer) :=
  if l.stopped then
    some (.ok ⟨.endOfInput, l.location⟩, l)
  else
    (l.dialect.skipRounds limit none l.cursor).map fun skipped => l.readFrom skipped.1 skipped.2

variable {l : Lexer} {limit : ℕ}

lemma pull_eq (hcomment : l.dialect.comment ≠ some []) (hlimit : l.cursor.rest.length < limit) :
    l.pull limit = some (if l.stopped then (.ok ⟨.endOfInput, l.location⟩, l) else l.read) := by
  rw [pull, Dialect.skipRounds_eq hcomment none l.cursor hlimit, read_of_skipTrivia rfl]
  split <;> rfl

lemma pull_of_next? (hcomment : l.dialect.comment ≠ some []) (hlimit : l.cursor.rest.length < limit)
    {result : Except LexError Token} {after : Lexer} (h : l.next? = (some result, after)) :
    l.pull limit = some (result, after) := by
  obtain ⟨hread, hl⟩ := read_of_next? h
  rw [pull_eq hcomment hlimit, hl, hread]
  rfl

lemma stream_of_stopped (h : l.stopped = true) : l.stream = ⟨[], .endOfInput l.location⟩ := by
  rw [stream, next?, if_pos h]

lemma read_eq_endOfInput {position : Position} {after : Lexer}
    (h : l.read = (.ok ⟨.endOfInput, position⟩, after)) :
    after.stopped = true ∧ after.location = position := by
  have hreads := l.reads_read
  rw [h] at hreads
  cases hreads with
  | endOfInput _ _ => exact ⟨rfl, rfl⟩
  | token _ _ hscan => cases Dialect.isScanned_of_scan hscan

/-- What is pulled comes first in the stream, and the lexer after it has the rest of the stream. -/
theorem pull_of_delimited (hcomment : l.dialect.comment ≠ some []) (hd : l.dialect.Delimited)
    (hlimit : l.cursor.rest.length < limit) :
    ∃ after, l.pull limit = some (l.stream.pull.1, after) ∧ after.stream = l.stream.pull.2 ∧
      after.dialect = l.dialect ∧ after.cursor.rest.length ≤ l.cursor.rest.length := by
  rw [pull_eq hcomment hlimit]
  by_cases hl : l.stopped = true
  · rw [if_pos hl, stream_of_stopped hl]
    exact ⟨l, rfl, stream_of_stopped hl, rfl, Nat.le_refl _⟩
  · rw [if_neg hl]
    have hnext := next?_of_not_stopped (by simpa using hl)
    refine ⟨l.read.2, by rw [pull_stream hnext], ?_, dialect_read l, l.rest_read_suffix.length_le⟩
    rcases hread : l.read with ⟨error | token, after⟩
    · rw [hread] at hnext
      rw [stream_of_stopped (stopped_of_next?_error hnext), stream, hnext]
      rfl
    · rw [hread] at hnext
      by_cases htoken : token.lexeme = .endOfInput
      · obtain ⟨lexeme, position⟩ := token
        obtain rfl := htoken
        obtain ⟨hstopped, hlocation⟩ := read_eq_endOfInput hread
        rw [stream_of_stopped hstopped, stream_of_endOfInput hnext, hlocation]
        rfl
      · obtain ⟨_, _, hstream⟩ := next?_eq_ok hnext htoken
        rw [hstream hd]
        rfl

lemma length_tokens_stream_le (l : Lexer) : l.stream.tokens.length ≤ l.size + 1 := by
  fun_induction stream l with
  | case1 => exact Nat.zero_le _
  | case2 => exact Nat.zero_le _
  | case3 => exact Nat.zero_le _
  | case4 l token after hnext htoken hsize ih =>
    rw [TokenStream.cons, List.length_cons]
    omega
  | case5 => exact Nat.succ_le_succ (Nat.zero_le _)

lemma next?_of_keyword? {lexeme : Lexeme} (hl : l.stopped = false) (hrest : l.cursor.rest ≠ [])
    (htrivia : l.dialect.trivia? l.cursor.rest = none)
    (hkeyword : l.dialect.keyword? l.cursor.rest = some (lexeme, 0)) :
    l.next? = (some (.ok ⟨lexeme, l.cursor.position⟩),
      { l with ruleOpen := lexeme ≠ .ruleTerminator }) := by
  obtain ⟨first, text, hcons⟩ := List.exists_cons_of_ne_nil hrest
  have hscan : l.dialect.scan (first :: text) = .ok (lexeme, 0) := by
    rw [hcons] at hkeyword
    rw [Dialect.scan, hkeyword]
  have hlexeme : lexeme ≠ .endOfInput := by
    rintro rfl
    cases Dialect.isScanned_of_scan hscan
  rw [← hcons] at hscan
  exact next?_of_read hl (read_of_scan (Dialect.skipTrivia_of_none htrivia)
    (by simp [ruleEnd?, hrest]) hscan hlexeme)

/-- Before a delimiter without characters a lexer yields it again and again. -/
theorem next?_after_of_keyword? {lexeme : Lexeme} (hl : l.stopped = false)
    (hrest : l.cursor.rest ≠ []) (htrivia : l.dialect.trivia? l.cursor.rest = none)
    (hkeyword : l.dialect.keyword? l.cursor.rest = some (lexeme, 0)) (n : ℕ) :
    (l.after n).next?.1 = some (.ok ⟨lexeme, l.cursor.position⟩) := by
  have hnext := next?_of_keyword? hl hrest htrivia hkeyword
  induction n generalizing l with
  | zero =>
    rw [after, hnext]
  | succ n ih =>
    rw [after, hnext]
    exact ih hl hrest htrivia hkeyword (next?_of_keyword? hl hrest htrivia hkeyword)

end Lexer

end TypedGrammar
