import TypedGrammar.Proofs.LexerStep
import TypedGrammar.Proofs.SourcePosition

/-!
# Positions that a lexer reports

A lexer advances its position over one piece of the source after another. No piece ends between a carriage
return and its line feed: white space and line breaks are skipped as far as they go, and everything else
stays on its line. So every position is the one that the text before it determines.
-/

namespace TypedGrammar

/-- The cursor is at a place of the source, with the position of that place. -/
def Cursor.IsIn (cursor : Cursor) (source : List Char) : Prop :=
  ∃ before, source = before ++ cursor.rest ∧ Uncut before cursor.rest ∧
    cursor.position = .afterText before

variable {cursor : Cursor} {source text : List Char} {n : Nat} {d : Dialect}

namespace Cursor.IsIn

lemma position_isIn (h : cursor.IsIn source) : cursor.position.IsIn source := by
  obtain ⟨before, hsource, huncut, hposition⟩ := h
  exact ⟨before, cursor.rest, hsource, huncut, hposition⟩

/-- Skipping leads to a place of the source again, unless it cuts a line break. -/
lemma skip (h : cursor.IsIn source) (hcut : Uncut (cursor.rest.take n) (cursor.rest.drop n)) :
    (cursor.skip n).IsIn source := by
  obtain ⟨before, hsource, huncut, hposition⟩ := h
  have hrest := List.take_append_drop n cursor.rest
  refine ⟨before ++ cursor.rest.take n, ?_, ?_, ?_⟩
  · rw [Cursor.rest_skip, List.append_assoc, hrest, hsource]
  · exact hcut.append_left (by rwa [hrest])
  · rw [Cursor.skip, hposition]
    apply Position.advance_afterText
    rw [← hrest] at huncut
    exact huncut.of_append_right

end Cursor.IsIn

namespace Dialect

lemma uncut_of_onLine (h : OnLine text n) : Uncut (text.take n) (text.drop n) :=
  uncut_of_unbroken h.2

/-- A run of characters that is taken as far as it goes ends after a whole line break or before any. -/
lemma uncut_takeWhile {p : Char → Bool}
    (hp : (∀ c, p c = true → isLineBreak c = false) ∨ p '\n' = true) (text : List Char) :
    Uncut (text.take (text.takeWhile p).length) (text.drop (text.takeWhile p).length) := by
  rcases hp with hp | hp
  · exact uncut_of_onLine (onLine_takeWhile hp text)
  · rw [drop_takeWhile]
    intro _ hhead
    have hfirst := List.head?_dropWhile_not p text
    rw [hhead] at hfirst
    simp [hp] at hfirst

lemma OnLine.append {before : List Char} (hbefore : ∀ c ∈ before, isLineBreak c = false)
    (h : OnLine text n) : OnLine (before ++ text) (before.length + n) := by
  refine ⟨by simpa using h.1, fun c hc => ?_⟩
  rw [List.take_length_add_append] at hc
  exact (List.mem_append.mp hc).elim (hbefore c) (h.2 c)

/-- A comment ends before the line does. -/
lemma onLine_commentLength (hd : d.Unbroken) (text : List Char) :
    OnLine text (d.commentLength text) := by
  unfold commentLength
  split
  · rename_i mark hmark
    split
    · rename_i h
      obtain ⟨after, rfl⟩ := List.isPrefixOf_iff_prefix.mp h.2
      rw [List.drop_left]
      apply OnLine.append
      · exact hd mark (by simp [delimiters, hmark])
      · exact onLine_takeWhile (by simp) after
    · exact onLine_zero text
  · exact onLine_zero text

lemma uncut_of_trivia? (hd : d.Unbroken) {t : Trivia} (h : d.trivia? text = some (t, n)) :
    Uncut (text.take n) (text.drop n) := by
  unfold trivia? at h
  split at h
  · cases h
    apply uncut_takeWhile
    cases hline : d.lineOriented with
    | true =>
      left
      intro c hc
      simpa [isSpace, hline] using (Bool.and_eq_true_iff.mp hc).2
    | false =>
      right
      simp [isSpace, hline]
      decide
  · split at h
    · cases h
      exact uncut_of_onLine (onLine_commentLength hd text)
    · split at h
      · rename_i hbreak
        cases h
        unfold lineBreakLength at hbreak ⊢
        split
        · exact uncut_takeWhile (.inr rfl) text
        · exact uncut_of_onLine (onLine_zero text)
      · cases h

/-- What is scanned ends on its line. -/
lemma uncut_of_scan (hd : d.Unbroken) (h : d.trivia? text = none) :
    Uncut (text.take (extent (d.scan text))) (text.drop (extent (d.scan text))) :=
  uncut_of_onLine ((extent_scan h).2 hd)

lemma isIn_skipTrivia (hd : d.Unbroken) {crossed : Option Position} (hcursor : cursor.IsIn source)
    (hcrossed : ∀ p ∈ crossed, p.IsIn source) :
    (d.skipTrivia crossed cursor).2.IsIn source ∧
      ∀ p ∈ (d.skipTrivia crossed cursor).1, p.IsIn source := by
  fun_induction skipTrivia d crossed cursor with
  | case1 crossed cursor h => exact ⟨hcursor, hcrossed⟩
  | case2 crossed cursor t n h ih =>
    apply ih (hcursor.skip (uncut_of_trivia? hd h))
    split
    · intro p hp
      cases crossed with
      | none =>
        cases hp
        exact hcursor.position_isIn
      | some first => exact hcrossed p hp
    · exact hcrossed

end Dialect

namespace Lexer

/-- The lexer is at a place of the source, which it reads with delimiters that hold no line break. -/
structure Stands (l : Lexer) (source : List Char) : Prop where
  unbroken : l.dialect.Unbroken
  cursor : l.cursor.IsIn source

/-- Reading leads from one place of the source to another, and what it reports is at a third. -/
lemma Stands.of_reads {l after : Lexer} {result : Except LexError Token} (h : l.Stands source)
    (hreads : l.Reads result after) : after.Stands source ∧
      (∀ token, result = .ok token → token.position.IsIn source) ∧
        ∀ error, result = .error error → error.position.IsIn source := by
  obtain ⟨hd, hcursor⟩ := h
  have hnone : ∀ p ∈ (none : Option Position), p.IsIn source := by simp
  have hskipped := Dialect.isIn_skipTrivia hd hcursor hnone
  have htrivia := l.dialect.trivia?_skipTrivia none l.cursor
  cases hreads with
  | ruleEnd hskip hrule =>
    rw [hskip] at hskipped
    obtain ⟨hcursor, hcrossed⟩ := hskipped
    refine ⟨⟨hd, hcursor⟩, ?_, by simp⟩
    rintro _ ⟨⟩
    rcases (ruleEnd?_eq_some hrule).2 with hposition | hposition
    · exact hcrossed _ hposition
    · rw [hposition]
      exact hcursor.position_isIn
  | endOfInput hskip hrest =>
    rw [hskip] at hskipped
    refine ⟨⟨hd, hskipped.1⟩, ?_, by simp⟩
    rintro _ ⟨⟩
    exact hskipped.1.position_isIn
  | error hskip hrest hscan =>
    rw [hskip] at hskipped htrivia
    have hcut := Dialect.uncut_of_scan hd htrivia
    rw [← hrest] at hscan
    rw [hscan] at hcut
    refine ⟨⟨hd, hskipped.1⟩, by simp, ?_⟩
    rintro _ ⟨⟩
    exact (hskipped.1.skip hcut).position_isIn
  | token hskip hrest hscan =>
    rw [hskip] at hskipped htrivia
    have hcut := Dialect.uncut_of_scan hd htrivia
    rw [← hrest] at hscan
    rw [hscan] at hcut
    refine ⟨⟨hd, hskipped.1.skip hcut⟩, ?_, by simp⟩
    rintro _ ⟨⟩
    exact hskipped.1.position_isIn

lemma Stands.next? {l : Lexer} (h : l.Stands source) : l.next?.2.Stands source ∧
    (∀ token, l.next?.1 = some (.ok token) → token.position.IsIn source) ∧
      ∀ error, l.next?.1 = some (.error error) → error.position.IsIn source := by
  unfold Lexer.next?
  split
  · exact ⟨h, by simp, by simp⟩
  · simpa using h.of_reads l.reads_read

lemma Stands.after {l : Lexer} (h : l.Stands source) (n : ℕ) : (l.after n).Stands source := by
  induction n generalizing l with
  | zero => exact h
  | succ n ih => exact ih h.next?.1

lemma stands_ofSource (hd : d.Unbroken) (source : List Char) : (ofSource d source).Stands source where
  unbroken := hd
  cursor := ⟨[], rfl, uncut_nil_left source, rfl⟩

/-- However often a lexer is called, the position it stands at and the positions of its tokens and errors
are those that the source before them determines. -/
theorem positions_isIn (hd : d.Unbroken) (source : List Char) (n : ℕ) :
    ((ofSource d source).after n).location.IsIn source ∧
      (∀ token, ((ofSource d source).after n).next?.1 = some (.ok token) →
        token.position.IsIn source) ∧
      ∀ error, ((ofSource d source).after n).next?.1 = some (.error error) →
        error.position.IsIn source := by
  have hstands := (stands_ofSource hd source).after n
  exact ⟨hstands.cursor.position_isIn, hstands.next?.2⟩

theorem positions_isIn_crLf : Dialect.bnf.Unbroken ∧
    (((ofSource .bnf "\r\n<é> <".toList).after 1).location = ⟨6, 2, 4⟩ ∧
      (⟨6, 2, 4⟩ : Position).IsIn "\r\n<é> <".toList) ∧
    ((ofSource .bnf "\r\n<é> <".toList).after 1).next?.1 =
        some (.error ⟨.unterminatedName, ⟨7, 2, 5⟩⟩) ∧
      (⟨7, 2, 5⟩ : Position).IsIn "\r\n<é> <".toList := by
  have hall : (Dialect.bnf.delimiters.all fun text => text.all fun c => !isLineBreak c) = true := by
    decide
  have hd : Dialect.bnf.Unbroken := by
    intro text htext c hc
    simpa using List.all_eq_true.mp (List.all_eq_true.mp hall text htext) c hc
  have hlocation : ((ofSource .bnf "\r\n<é> <".toList).after 1).location = ⟨6, 2, 4⟩ := by
    decide +kernel
  have herror : ((ofSource .bnf "\r\n<é> <".toList).after 1).next?.1 =
      some (.error ⟨.unterminatedName, ⟨7, 2, 5⟩⟩) := by decide +kernel
  obtain ⟨hplace, -, hreport⟩ := positions_isIn hd "\r\n<é> <".toList 1
  rw [hlocation] at hplace
  exact ⟨hd, ⟨hlocation, hplace⟩, herror, hreport _ herror⟩

end Lexer

end TypedGrammar
