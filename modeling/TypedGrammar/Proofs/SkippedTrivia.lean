import TypedGrammar.Proofs.PrintedLexeme
import TypedGrammar.Proofs.TokenSpan

/-!
# Skipped trivia

However white space and comments are mixed, all of them are skipped, and what is skipped crosses a line break
exactly if it holds one and line breaks can end rules. This is so where one character begins the comments that
is not white space itself.
-/

namespace TypedGrammar.Dialect

/-- One character begins the comments, which is neither white space nor part of names. -/
def PlainMark (d : Dialect) : Prop :=
  ∀ mark ∈ d.comment, ∃ c, mark = [c] ∧ Unicode.isWhiteSpace c = false ∧ isNameChar c = false

/-- From the text one piece of trivia after another is skipped, up to the rest, where there is none.
`crosses` says whether line breaks are among the pieces. -/
inductive Skips (d : Dialect) : List Char → Bool → List Char → Prop
  | done {text : List Char} (htrivia : d.trivia? text = none) : d.Skips text false text
  | step {text rest : List Char} {t : Trivia} {n : ℕ} {crosses : Bool}
      (htrivia : d.trivia? text = some (t, n)) (hrest : d.Skips (text.drop n) crosses rest) :
      d.Skips text (decide (t = .lineBreak) || crosses) rest

variable {d : Dialect} {text text' gap rest : List Char} {crosses : Bool} {c : Char}

/-! ### The first piece -/

lemma isSpace_of_isWhiteSpace (hc : Unicode.isWhiteSpace c = true)
    (hbreak : ¬ (d.lineOriented && isLineBreak c) = true) : d.isSpace c = true := by
  rw [Bool.not_eq_true] at hbreak
  rw [isSpace, hc, hbreak]
  rfl

lemma trivia?_cons_space (hc : d.isSpace c = true) (text : List Char) :
    d.trivia? (c :: text) = some (.space, ((c :: text).takeWhile d.isSpace).length) := by
  rw [trivia?, if_pos (by simp [hc])]

lemma trivia?_cons_lineBreak (hd : d.PlainMark) (hc : (d.lineOriented && isLineBreak c) = true)
    (text : List Char) :
    d.trivia? (c :: text) =
      some (.lineBreak, ((c :: text).takeWhile fun c => d.lineOriented && isLineBreak c).length) := by
  have hnospace : d.isSpace c = false := by simp [isSpace, hc]
  obtain ⟨hline, hbreak⟩ := Bool.and_eq_true_iff.mp hc
  have hnocomment : ∀ mark ∈ d.comment, mark.head? ≠ some c := by
    rintro mark hmark hhead
    obtain ⟨first, rfl, hfirst, _⟩ := hd mark hmark
    cases hhead
    rw [isWhiteSpace_of_isLineBreak hbreak] at hfirst
    cases hfirst
  have hlength : d.lineBreakLength (c :: text) = ((c :: text).takeWhile isLineBreak).length :=
    if_pos hline
  rw [trivia?, List.takeWhile_cons_of_neg (by simp [hnospace]), commentLength_eq_zero hnocomment,
    hlength]
  simp [hline, hbreak]

lemma trivia?_cons_comment (hmark : d.comment = some [c]) (hc : Unicode.isWhiteSpace c = false)
    (text : List Char) :
    d.trivia? (c :: text) = some (.comment, (text.takeWhile (!isLineBreak ·)).length + 1) := by
  have hnospace : d.isSpace c = false := by simp [isSpace, hc]
  have hlength : d.commentLength (c :: text) = (text.takeWhile (!isLineBreak ·)).length + 1 := by
    simp [commentLength, hmark, Nat.add_comm]
  rw [trivia?, List.takeWhile_cons_of_neg (by simp [hnospace]), hlength]
  simp

/-- What a character begins is trivia or not whatever follows. -/
lemma trivia?_cons_eq_none_iff (hd : d.PlainMark) : d.trivia? (c :: text) = none ↔
    Unicode.isWhiteSpace c = false ∧ ∀ mark ∈ d.comment, mark.head? ≠ some c := by
  refine ⟨fun h => ⟨?_, fun mark hmark hhead => ?_⟩, fun ⟨hspace, hmark⟩ => ?_⟩
  · by_contra hspace
    by_cases hbreak : (d.lineOriented && isLineBreak c) = true
    · cases h.symm.trans (trivia?_cons_lineBreak hd hbreak text)
    · have hc := isSpace_of_isWhiteSpace (by simpa using hspace) hbreak
      cases h.symm.trans (trivia?_cons_space hc text)
  · obtain ⟨first, rfl, hfirst, _⟩ := hd mark hmark
    cases hhead
    cases h.symm.trans (trivia?_cons_comment hmark hfirst text)
  · exact trivia?_eq_none hspace hmark

lemma trivia?_eq_none_congr (hd : d.PlainMark) (h : d.trivia? text = none)
    (hhead : text'.head? = text.head?) : d.trivia? text' = none := by
  cases text with
  | nil => rwa [List.head?_eq_none_iff.mp hhead]
  | cons c text =>
    obtain ⟨text', rfl⟩ := List.head?_eq_some_iff.mp hhead
    exact (trivia?_cons_eq_none_iff hd).mpr ((trivia?_cons_eq_none_iff hd).mp h)

/-! ### All pieces -/

/-- Skipping stops before the rest, wherever the text stands. -/
lemma Skips.skipTrivia_eq (h : d.Skips text crosses rest) (crossed : Option Position)
    {cursor : Cursor} (hcursor : cursor.rest = text) :
    (d.skipTrivia crossed cursor).2.rest = rest ∧
      (d.skipTrivia crossed cursor).1.isSome = (crossed.isSome || crosses) := by
  induction h generalizing crossed cursor with
  | done htrivia =>
    subst hcursor
    simp [skipTrivia_of_none htrivia]
  | @step text rest t n crosses htrivia _ ih =>
    subst hcursor
    rw [skipTrivia_of_some htrivia]
    obtain ⟨hrest, hcrossed⟩ := ih _ (Cursor.rest_skip cursor n)
    refine ⟨hrest, hcrossed.trans ?_⟩
    cases t <;> simp

/-- One more character at the beginning of a run is skipped together with it. -/
lemma Skips.cons {p : Char → Bool} {t : Trivia}
    (hrun : ∀ c, p c = true → ∀ text,
      d.trivia? (c :: text) = some (t, ((c :: text).takeWhile p).length))
    (h : d.Skips text crosses rest) (hc : p c = true) :
    d.Skips (c :: text) (decide (t = .lineBreak) || crosses) rest := by
  have hcons := hrun c hc text
  rw [List.takeWhile_cons_of_pos hc, List.length_cons] at hcons
  cases text with
  | nil => exact .step hcons h
  | cons b text =>
    by_cases hb : p b = true
    · cases h with
      | done hnone => cases hnone.symm.trans (hrun b hb text)
      | step hsome hrest =>
        cases hsome.symm.trans (hrun b hb text)
        rw [← Bool.or_assoc, Bool.or_self]
        exact .step hcons hrest
    · rw [List.takeWhile_cons_of_neg hb] at hcons
      exact .step hcons h

lemma skips_of_blank (hd : d.PlainMark) (h : d.Blank rest gap) (hrest : d.trivia? rest = none) :
    d.Skips (gap ++ rest) (d.lineOriented && gap.any isLineBreak) rest := by
  induction h with
  | nil => simpa using Skips.done hrest
  | @space c gap hc _ ih =>
    by_cases hbreak : (d.lineOriented && isLineBreak c) = true
    · have hskips := ih.cons (fun c hc => trivia?_cons_lineBreak hd hc) hbreak
      rw [List.cons_append, List.any_cons, Bool.and_or_distrib_left, hbreak]
      simpa only [decide_true] using hskips
    · have hspace := isSpace_of_isWhiteSpace hc hbreak
      have hskips := ih.cons (fun c hc => trivia?_cons_space hc) hspace
      rw [List.cons_append, List.any_cons, Bool.and_or_distrib_left, Bool.not_eq_true _ |>.mp hbreak]
      simpa only [reduceCtorEq, decide_false] using hskips
  | @comment mark body gap hmark hbody hend _ ih =>
    obtain ⟨c, rfl, hc, _⟩ := hd mark hmark
    have htake : (body ++ (gap ++ rest)).takeWhile (!isLineBreak ·) = body :=
      takeWhile_append_of_head (fun c hc => by simp [hbody c hc]) fun c hc => by simp [hend c hc]
    have hcomment := trivia?_cons_comment hmark hc (body ++ (gap ++ rest))
    have hbreak : ([c] ++ body ++ gap).any isLineBreak = gap.any isLineBreak := by
      have hany : body.any isLineBreak = false := by simpa using hbody
      simp [hany, isLineBreak_eq_false hc]
    rw [htake] at hcomment
    rw [hbreak, List.append_assoc, List.append_assoc, List.singleton_append]
    refine Skips.step hcomment ?_
    rwa [List.drop_succ_cons, List.drop_left]

/-- Blank text is skipped as a whole up to where no trivia begins. -/
theorem skipTrivia_of_blank (hd : d.PlainMark) (h : d.Blank rest gap) (hrest : d.trivia? rest = none)
    {cursor : Cursor} (hcursor : cursor.rest = gap ++ rest) :
    (d.skipTrivia none cursor).2.rest = rest ∧
      (d.skipTrivia none cursor).1.isSome = (d.lineOriented && gap.any isLineBreak) :=
  (skips_of_blank hd h hrest).skipTrivia_eq none hcursor

/-- Whether text is blank depends on what follows only by the first character of that. -/
lemma Blank.congr (h : d.Blank text gap) (hhead : text'.head? = text.head?) : d.Blank text' gap := by
  induction h with
  | nil => exact .nil
  | space hc _ ih => exact .space hc ih
  | comment hmark hbody hend _ ih =>
    refine .comment hmark hbody ?_ ih
    rwa [List.head?_append, hhead, ← List.head?_append]

lemma plainMark_bnf : bnf.PlainMark := by
  rintro mark ⟨⟩
  exact ⟨'#', rfl, by decide, by decide⟩

lemma plainMark_ebnf : ebnf.PlainMark := by
  rintro mark ⟨⟩
  exact ⟨'#', rfl, by decide, by decide⟩

end TypedGrammar.Dialect
