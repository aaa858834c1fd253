import Mathlib.Data.List.Find
import TypedGrammar.Proofs.RuleEnd
import TypedGrammar.Proofs.TokenPlace

/-!
# Line endings

The lines of a source can end with line feeds, with carriage returns, or with both. A lexer yields the same
lexemes in the same lines and columns, since it takes the marks between lines as a whole or stops before the
first of them, and only offsets tell the sources apart.
-/

namespace TypedGrammar

/-- The text with another mark at the end of each line. -/
def endLinesWith (mark text : List Char) : List Char :=
  text.flatMap fun c => if c = '\n' then mark else [c]

/-- A carriage return, or one with its line feed. -/
def IsReturn (mark : List Char) : Prop :=
  mark = ['\r', '\n'] ∨ mark = ['\r']

/-- The position without its offset. -/
def Position.lineColumn (p : Position) : Position :=
  ⟨0, p.line, p.column⟩

variable {mark text word : List Char} {c : Char} {n : ℕ} {p : Char → Bool}

/-! ### Texts -/

lemma endLinesWith_cons_of_ne (hc : c ≠ '\n') (mark text : List Char) :
    endLinesWith mark (c :: text) = c :: endLinesWith mark text := by
  simp [endLinesWith, hc]

lemma endLinesWith_lineFeed (mark text : List Char) :
    endLinesWith mark ('\n' :: text) = mark ++ endLinesWith mark text := by
  simp [endLinesWith]

lemma endLinesWith_append (mark a b : List Char) :
    endLinesWith mark (a ++ b) = endLinesWith mark a ++ endLinesWith mark b :=
  List.flatMap_append

/-- Text within a line is left as it is. -/
lemma endLinesWith_of_unbroken (h : ∀ c ∈ text, isLineBreak c = false) (mark : List Char) :
    endLinesWith mark text = text := by
  induction text with
  | nil => rfl
  | cons c text ih =>
    obtain ⟨hc, htext⟩ := List.forall_mem_cons.mp h
    have hne : c ≠ '\n' := by
      rintro rfl
      cases hc
    rw [endLinesWith_cons_of_ne hne, ih htext]

lemma IsReturn.exists_cons (h : IsReturn mark) : ∃ rest, mark = '\r' :: rest := by
  rcases h with rfl | rfl <;> exact ⟨_, rfl⟩

lemma take_endLinesWith (mark text : List Char) (n : ℕ) :
    (endLinesWith mark text).take (endLinesWith mark (text.take n)).length =
      endLinesWith mark (text.take n) := by
  conv_lhs => rw [← List.take_append_drop n text, endLinesWith_append]
  rw [List.take_append_drop, List.take_left]

lemma drop_endLinesWith (mark text : List Char) (n : ℕ) :
    (endLinesWith mark text).drop (endLinesWith mark (text.take n)).length =
      endLinesWith mark (text.drop n) := by
  conv_lhs => rw [← List.take_append_drop n text, endLinesWith_append]
  rw [List.take_append_drop, List.drop_left]

lemma endLinesWith_eq_nil_iff (hmark : IsReturn mark) : endLinesWith mark text = [] ↔ text = [] := by
  obtain ⟨rest, rfl⟩ := hmark.exists_cons
  cases text with
  | nil => simp [endLinesWith]
  | cons c text =>
    by_cases hc : c = '\n'
    · rw [hc, endLinesWith_lineFeed]
      simp
    · rw [endLinesWith_cons_of_ne hc]
      simp

/-- A run of characters that tells no line breaks apart is as long in lines. -/
lemma takeWhile_endLinesWith (hmark : IsReturn mark) (hp : p '\r' = p '\n') (text : List Char) :
    (endLinesWith mark text).takeWhile p = endLinesWith mark (text.takeWhile p) := by
  induction text with
  | nil => rfl
  | cons c text ih =>
    by_cases hc : c = '\n'
    · subst hc
      rw [endLinesWith_lineFeed]
      by_cases hbreak : p '\n' = true
      · have hall : ∀ c ∈ mark, p c = true := by
          rcases hmark with rfl | rfl <;> simp [hp, hbreak]
        rw [List.takeWhile_append_of_pos hall, List.takeWhile_cons_of_pos hbreak,
          endLinesWith_lineFeed, ih]
      · obtain ⟨rest, rfl⟩ := hmark.exists_cons
        rw [List.cons_append, List.takeWhile_cons_of_neg (by rwa [hp]),
          List.takeWhile_cons_of_neg hbreak]
        rfl
    · rw [endLinesWith_cons_of_ne hc, List.takeWhile_cons, List.takeWhile_cons, ih]
      split
      · rw [endLinesWith_cons_of_ne hc]
      · rfl

lemma unbroken_takeWhile (hp : ∀ c, p c = true → isLineBreak c = false) (text : List Char) :
    ∀ c ∈ text.takeWhile p, isLineBreak c = false :=
  fun c hc => hp c (List.mem_takeWhile_imp hc)

/-- A run that stops before line breaks is the same. -/
lemma takeWhile_endLinesWith_of_unbroken (hmark : IsReturn mark)
    (hp : ∀ c, p c = true → isLineBreak c = false) (text : List Char) :
    (endLinesWith mark text).takeWhile p = text.takeWhile p := by
  have hstop : ∀ c, isLineBreak c = true → p c = false := by
    intro c hc
    by_contra hrun
    rw [hp c (by simpa using hrun)] at hc
    cases hc
  rw [takeWhile_endLinesWith hmark ((hstop _ rfl).trans (hstop _ rfl).symm),
    endLinesWith_of_unbroken (unbroken_takeWhile hp text)]

lemma isPrefixOf_endLinesWith (hmark : IsReturn mark) (hword : ∀ c ∈ word, isLineBreak c = false)
    (text : List Char) : word.isPrefixOf (endLinesWith mark text) = word.isPrefixOf text := by
  induction word generalizing text with
  | nil => rfl
  | cons b word ih =>
    obtain ⟨hb, hword⟩ := List.forall_mem_cons.mp hword
    cases text with
    | nil => rfl
    | cons c text =>
      by_cases hc : c = '\n'
      · obtain ⟨rest, rfl⟩ := hmark.exists_cons
        have hfeed : b ≠ '\n' := by
          rintro rfl
          cases hb
        have hreturn : b ≠ '\r' := by
          rintro rfl
          cases hb
        rw [hc, endLinesWith_lineFeed, List.cons_append, List.isPrefixOf, List.isPrefixOf,
          beq_false_of_ne hreturn, beq_false_of_ne hfeed, Bool.false_and, Bool.false_and]
      · rw [endLinesWith_cons_of_ne hc, List.isPrefixOf, List.isPrefixOf, ih hword]

/-! ### Lines of a text -/

lemma any_isLineBreak_endLinesWith (hmark : IsReturn mark) (text : List Char) :
    (endLinesWith mark text).any isLineBreak = text.any isLineBreak := by
  induction text with
  | nil => rfl
  | cons c text ih =>
    by_cases hc : c = '\n'
    · rw [hc, endLinesWith_lineFeed]
      rcases hmark with rfl | rfl <;> rfl
    · rw [endLinesWith_cons_of_ne hc, List.any_cons, List.any_cons, ih]

lemma lineFeed_not_mem_endLinesWith (text : List Char) : '\n' ∉ endLinesWith ['\r'] text := by
  intro h
  obtain ⟨c, _, hc⟩ := List.mem_flatMap.mp h
  split at hc
  · cases List.mem_singleton.mp hc
  · rename_i hne
    exact hne (List.mem_singleton.mp hc).symm

lemma lineBreaks_endLinesWith (hmark : IsReturn mark) (htext : '\r' ∉ text) :
    lineBreaks (endLinesWith mark text) = lineBreaks text := by
  induction text with
  | nil => rfl
  | cons c text ih =>
    obtain ⟨hreturn, htext⟩ := List.ne_and_not_mem_of_not_mem_cons htext
    have ih := ih htext
    by_cases hc : c = '\n'
    · subst hc
      rw [endLinesWith_lineFeed, lineBreaks_cons '\n', if_pos (.inl rfl), ← ih]
      rcases hmark with rfl | rfl
      · exact Nat.add_comm _ 1
      · have hhead : (endLinesWith ['\r'] text).head? ≠ some '\n' :=
          fun hhead => lineFeed_not_mem_endLinesWith text (List.mem_of_head? hhead)
        rw [List.singleton_append, lineBreaks_cons, if_pos (.inr ⟨rfl, hhead⟩)]
    · rw [endLinesWith_cons_of_ne hc, lineBreaks_cons, lineBreaks_cons, ih]
      simp [hc, Ne.symm hreturn]

lemma lastLine_endLinesWith (hmark : IsReturn mark) (text : List Char) (h : '\r' ∉ text) :
    lastLine (endLinesWith mark text) = lastLine text := by
  induction text with
  | nil => rfl
  | cons c text ih =>
    obtain ⟨hreturn, htext⟩ := List.ne_and_not_mem_of_not_mem_cons h
    have hany := any_isLineBreak_endLinesWith hmark text
    have hcons : endLinesWith mark (c :: text) = endLinesWith mark [c] ++ endLinesWith mark text := by
      rw [← endLinesWith_append, List.singleton_append]
    have hfirst : lastLine (endLinesWith mark [c]) = lastLine [c] := by
      by_cases hc : c = '\n'
      · rw [hc, endLinesWith_lineFeed]
        rcases hmark with rfl | rfl <;> rfl
      · rw [endLinesWith_cons_of_ne hc]
        rfl
    have hlast := lastLine_append [c] text
    rw [List.singleton_append] at hlast
    rw [hcons, lastLine_append, hany, hfirst, ih htext, hlast]
    split
    · rfl
    · rename_i hbreak
      rw [endLinesWith_of_unbroken (by simpa using hbreak)]

/-- Advancing over text leads to the same line and column whatever ends its lines. -/
lemma Position.lineColumn_advance {p p' : Position} (h : p'.lineColumn = p.lineColumn)
    (hmark : IsReturn mark) (htext : '\r' ∉ text) :
    (p'.advance (endLinesWith mark text)).lineColumn = (p.advance text).lineColumn := by
  obtain ⟨hline, hcolumn⟩ : p'.line = p.line ∧ p'.column = p.column := by simpa [lineColumn] using h
  have hlength : text.any isLineBreak = false → endLinesWith mark text = text :=
    fun hbreak => endLinesWith_of_unbroken (by simpa using hbreak) mark
  rw [lineColumn, lineColumn, advance_line, advance_line, advance_column, advance_column, hline,
    hcolumn, lineBreaks_endLinesWith hmark htext, any_isLineBreak_endLinesWith hmark,
    lastLine_endLinesWith hmark text htext]
  split
  · rfl
  · rename_i hbreak
    rw [hlength (by simpa using hbreak)]

namespace Dialect

variable {d : Dialect}

/-! ### Trivia -/

lemma length_endLinesWith_take_pos_iff (hmark : IsReturn mark) (hn : n ≤ text.length) :
    0 < (endLinesWith mark (text.take n)).length ↔ 0 < n := by
  have hlength : (text.take n).length = n := List.length_take_of_le hn
  rw [List.length_pos_iff, ne_eq, endLinesWith_eq_nil_iff hmark, ← ne_eq, ← List.length_pos_iff,
    hlength]

lemma commentLength_endLinesWith (hd : d.Unbroken) (hmark : IsReturn mark) (text : List Char) :
    d.commentLength (endLinesWith mark text) =
      (endLinesWith mark (text.take (d.commentLength text))).length := by
  have hline := onLine_commentLength hd text
  rw [endLinesWith_of_unbroken hline.2, List.length_take_of_le hline.1]
  unfold commentLength
  split
  · rename_i word hword
    have hunbroken : ∀ c ∈ word, isLineBreak c = false := hd word (by simp [delimiters, hword])
    rw [isPrefixOf_endLinesWith hmark hunbroken]
    split
    · rename_i h
      obtain ⟨after, rfl⟩ := List.isPrefixOf_iff_prefix.mp h.2
      rw [endLinesWith_append, endLinesWith_of_unbroken hunbroken, List.drop_left, List.drop_left,
        takeWhile_endLinesWith_of_unbroken hmark (by simp)]
    · rfl
  · rfl

lemma lineBreakLength_endLinesWith (hmark : IsReturn mark) (text : List Char) :
    d.lineBreakLength (endLinesWith mark text) =
      (endLinesWith mark (text.take (d.lineBreakLength text))).length := by
  unfold lineBreakLength
  split
  · rw [takeWhile_endLinesWith hmark rfl, take_takeWhile]
  · rfl

/-- The same trivia begins the text, as long as it is with the other marks in it. -/
lemma trivia?_endLinesWith (hd : d.Unbroken) (hmark : IsReturn mark) (text : List Char) :
    d.trivia? (endLinesWith mark text) =
      (d.trivia? text).map (Prod.map id fun n => (endLinesWith mark (text.take n)).length) := by
  have hspace : ((endLinesWith mark text).takeWhile d.isSpace).length =
      (endLinesWith mark (text.take (text.takeWhile d.isSpace).length)).length := by
    rw [takeWhile_endLinesWith hmark rfl, take_takeWhile]
  have hbreak : d.lineBreakLength text ≤ text.length := by
    unfold lineBreakLength
    split
    · exact (List.takeWhile_prefix _).length_le
    · exact Nat.zero_le _
  rw [trivia?, trivia?, hspace, commentLength_endLinesWith hd hmark,
    lineBreakLength_endLinesWith hmark]
  simp only [length_endLinesWith_take_pos_iff hmark (List.takeWhile_prefix _).length_le,
    length_endLinesWith_take_pos_iff hmark (d.commentLength_le text),
    length_endLinesWith_take_pos_iff hmark hbreak]
  split_ifs <;> rfl

/-! ### Scans -/

lemma keyword?_endLinesWith (hd : d.Unbroken) (hmark : IsReturn mark) (text : List Char) :
    d.keyword? (endLinesWith mark text) = d.keyword? text := by
  have hfind : ∀ keyword ∈ d.keywords,
      keyword.2.isPrefixOf (endLinesWith mark text) = keyword.2.isPrefixOf text :=
    fun keyword hkeyword =>
      isPrefixOf_endLinesWith hmark (hd _ (mem_delimiters_of_mem_keywords hkeyword)) text
  rw [keyword?, keyword?, List.find?_congr hfind]

lemma scanBody_endLinesWith (hmark : IsReturn mark) (quote : Char) (escape : Option Char)
    (escaped : Bool) (n : ℕ) (text : List Char) :
    scanBody quote escape escaped n (endLinesWith mark text) =
      scanBody quote escape escaped n text := by
  induction text generalizing escaped n with
  | nil => rfl
  | cons c text ih =>
    by_cases hc : c = '\n'
    · obtain ⟨rest, rfl⟩ := hmark.exists_cons
      rw [hc, endLinesWith_lineFeed]
      rfl
    · rw [endLinesWith_cons_of_ne hc, scanBody, scanBody, ih, ih]

lemma scanBracketed_endLinesWith (hmark : IsReturn mark) (closing : Char) (text : List Char) :
    scanBracketed closing (endLinesWith mark text) = scanBracketed closing text := by
  rw [scanBracketed, scanBracketed]
  generalize hinName : (fun c => !isLineBreak c && c != closing) = inName
  have hunbroken : ∀ c, inName c = true → isLineBreak c = false := by
    intro c hc
    rw [← hinName] at hc
    simpa using (Bool.and_eq_true_iff.mp hc).1
  have hdrop := drop_endLinesWith mark text (text.takeWhile inName).length
  rw [take_takeWhile, endLinesWith_of_unbroken (unbroken_takeWhile hunbroken text)] at hdrop
  rw [takeWhile_endLinesWith_of_unbroken hmark hunbroken, hdrop]
  cases text.drop (text.takeWhile inName).length with
  | nil => rfl
  | cons c after =>
    by_cases hc : c = '\n'
    · obtain ⟨rest, rfl⟩ := hmark.exists_cons
      rw [hc, endLinesWith_lineFeed]
      rfl
    · rw [endLinesWith_cons_of_ne hc]

lemma scanBare_endLinesWith (hmark : IsReturn mark) (first : Char) (text : List Char) :
    d.scanBare first (endLinesWith mark text) = d.scanBare first text := by
  have hname : ∀ c, isNameChar c = true → isLineBreak c = false := fun _ => isLineBreak_of_isNameChar
  rw [scanBare, scanBare, takeWhile_endLinesWith_of_unbroken hmark hname]

/-- What is scanned before the end of a line does not depend on the mark there. -/
lemma scan_endLinesWith (hd : d.Unbroken) (hmark : IsReturn mark) (h : d.trivia? text = none) :
    d.scan (endLinesWith mark text) = d.scan text := by
  cases text with
  | nil => rfl
  | cons first text =>
    have hfirst : first ≠ '\n' := by
      rintro rfl
      cases isLineBreak_of_trivia?_eq_none h
    have hkeyword := keyword?_endLinesWith hd hmark (first :: text)
    rw [endLinesWith_cons_of_ne hfirst] at hkeyword ⊢
    rw [scan, scan, hkeyword, scanBare_endLinesWith hmark]
    simp only [scanLiteral, scanBody_endLinesWith hmark, scanBracketed_endLinesWith hmark]

end Dialect

/-! ### Lexers -/

/-- The second cursor is at the same line and column, where the same text follows with its own marks. -/
structure Cursor.Respells (mark : List Char) (cursor cursor' : Cursor) : Prop where
  unreturned : '\r' ∉ cursor.rest
  rest : cursor'.rest = endLinesWith mark cursor.rest
  position : cursor'.position.lineColumn = cursor.position.lineColumn

lemma Cursor.Respells.skip {cursor cursor' : Cursor} (h : cursor.Respells mark cursor')
    (hmark : IsReturn mark) (n : ℕ) :
    (cursor.skip n).Respells mark
      (cursor'.skip (endLinesWith mark (cursor.rest.take n)).length) where
  unreturned := fun hmem => h.unreturned (List.mem_of_mem_drop hmem)
  rest := by rw [Cursor.rest_skip, Cursor.rest_skip, h.rest, drop_endLinesWith]
  position := by
    rw [Cursor.skip, Cursor.skip, h.rest, take_endLinesWith]
    exact Position.lineColumn_advance h.position hmark
      fun hmem => h.unreturned (List.mem_of_mem_take hmem)

/-- Skipping what is within a line goes as far in both sources. -/
lemma Cursor.Respells.skip_onLine {cursor cursor' : Cursor} (h : cursor.Respells mark cursor')
    (hmark : IsReturn mark) (hline : Dialect.OnLine cursor.rest n) :
    (cursor.skip n).Respells mark (cursor'.skip n) := by
  have hskip := h.skip hmark n
  rwa [endLinesWith_of_unbroken hline.2, List.length_take_of_le hline.1] at hskip

lemma Dialect.respells_skipTrivia {d : Dialect} (hd : d.Unbroken) (hmark : IsReturn mark)
    {crossed crossed' : Option Position} {cursor cursor' : Cursor}
    (hcursor : cursor.Respells mark cursor')
    (hcrossed : crossed'.map Position.lineColumn = crossed.map Position.lineColumn) :
    (d.skipTrivia crossed' cursor').1.map Position.lineColumn =
        (d.skipTrivia crossed cursor).1.map Position.lineColumn ∧
      (d.skipTrivia crossed cursor).2.Respells mark (d.skipTrivia crossed' cursor').2 := by
  fun_induction skipTrivia d crossed cursor generalizing crossed' cursor' with
  | case1 crossed cursor h =>
    have htrivia := trivia?_endLinesWith hd hmark cursor.rest
    rw [← hcursor.rest, h] at htrivia
    rw [skipTrivia_of_none htrivia]
    exact ⟨hcrossed, hcursor⟩
  | case2 crossed cursor t n h ih =>
    have htrivia := trivia?_endLinesWith hd hmark cursor.rest
    rw [← hcursor.rest, h] at htrivia
    rw [skipTrivia_of_some htrivia]
    apply ih (hcursor.skip hmark n)
    have hposition := hcursor.position
    simp only [id]
    split
    · cases crossed <;> cases crossed' <;> simp_all
    · exact hcrossed

namespace Lexer

/-- The lexers go on alike at the same line and column, the second one in the source with its own marks. -/
structure Respells (mark : List Char) (l l' : Lexer) : Prop where
  unbroken : l.dialect.Unbroken
  dialect : l'.dialect = l.dialect
  ruleOpen : l'.ruleOpen = l.ruleOpen
  stopped : l'.stopped = l.stopped
  cursor : l.cursor.Respells mark l'.cursor

variable {l l' : Lexer} {crossed crossed' : Option Position} {cursor cursor' : Cursor}

lemma relocate_ok_congr {f : Position → Position} {p p' : Position} (h : f p = f p') (lexeme : Lexeme) :
    relocate f (.ok ⟨lexeme, p⟩) = relocate f (.ok ⟨lexeme, p'⟩) :=
  congrArg (fun place => Except.ok (Token.mk lexeme place)) h

lemma relocate_error_congr {f : Position → Position} {p p' : Position} (h : f p = f p')
    (kind : LexErrorKind) : relocate f (.error ⟨kind, p⟩) = relocate f (.error ⟨kind, p'⟩) :=
  congrArg (fun place => Except.error (LexError.mk kind place)) h

lemma Respells.ruleEnd? (h : l.Respells mark l') (hmark : IsReturn mark)
    (hcursor : cursor.Respells mark cursor')
    (hcrossed : crossed'.map Position.lineColumn = crossed.map Position.lineColumn) :
    (l'.ruleEnd? crossed' cursor').map Position.lineColumn =
      (l.ruleEnd? crossed cursor).map Position.lineColumn := by
  have halternative := isPrefixOf_endLinesWith hmark
    (h.unbroken l.dialect.alternative (by simp [Dialect.delimiters])) cursor.rest
  have hempty : cursor'.rest.isEmpty = cursor.rest.isEmpty := by
    rw [Bool.eq_iff_iff, List.isEmpty_iff, List.isEmpty_iff, hcursor.rest,
      endLinesWith_eq_nil_iff hmark]
  have hsome : crossed'.isSome = crossed.isSome := by
    simpa using congrArg Option.isSome hcrossed
  rw [← hcursor.rest] at halternative
  rw [Lexer.ruleEnd?, Lexer.ruleEnd?, h.ruleOpen, h.dialect, halternative, hempty, hsome]
  split
  · split
    · exact hcrossed
    · split
      · exact congrArg some hcursor.position
      · rfl
  · rfl

/-- The lexers yield the same up to offsets, and go on alike. -/
lemma Respells.read (h : l.Respells mark l') (hmark : IsReturn mark) :
    relocate .lineColumn l.read.1 = relocate .lineColumn l'.read.1 ∧
      l.read.2.Respells mark l'.read.2 := by
  obtain ⟨hcrossed, hcursor⟩ := Dialect.respells_skipTrivia h.unbroken hmark h.cursor
    (rfl : (none : Option Position).map Position.lineColumn = _)
  have htrivia := l.dialect.trivia?_skipTrivia none l.cursor
  rcases hskip : l.dialect.skipTrivia none l.cursor with ⟨crossed, cursor⟩
  rcases hskip' : l.dialect.skipTrivia none l'.cursor with ⟨crossed', cursor'⟩
  rw [hskip, hskip'] at hcrossed hcursor
  rw [hskip] at htrivia
  rw [← h.dialect] at hskip'
  dsimp only at hcrossed hcursor htrivia
  have hrule := h.ruleEnd? hmark hcursor hcrossed
  cases hend : l.ruleEnd? crossed cursor with
  | some position =>
    obtain ⟨position', hend', hposition⟩ : ∃ position', l'.ruleEnd? crossed' cursor' = some position' ∧
        position'.lineColumn = position.lineColumn := by simpa [hend] using hrule
    rw [read_of_ruleEnd hskip hend, read_of_ruleEnd hskip' hend']
    exact ⟨relocate_ok_congr hposition.symm _, h.unbroken, h.dialect, rfl, h.stopped, hcursor⟩
  | none =>
    have hend' : l'.ruleEnd? crossed' cursor' = none := by simpa [hend] using hrule
    have hscan : l'.dialect.scan cursor'.rest = l.dialect.scan cursor.rest := by
      rw [h.dialect, hcursor.rest, Dialect.scan_endLinesWith h.unbroken hmark htrivia]
    have hline := (Dialect.extent_scan htrivia).2 h.unbroken
    rw [read_of_skipTrivia hskip, read_of_skipTrivia hskip', readFrom, readFrom, hend, hend', hscan]
    rcases hresult : l.dialect.scan cursor.rest with ⟨kind, n⟩ | ⟨lexeme, n⟩
    · rw [hresult] at hline
      have hskipped := hcursor.skip_onLine hmark hline
      exact ⟨relocate_error_congr hskipped.position.symm kind, h.unbroken, h.dialect, h.ruleOpen,
        rfl, hcursor⟩
    · rw [hresult] at hline
      have hskipped := hcursor.skip_onLine hmark hline
      have hplace := relocate_ok_congr hcursor.position.symm lexeme
      cases lexeme with
      | endOfInput => exact ⟨hplace, h.unbroken, h.dialect, h.ruleOpen, rfl, hcursor⟩
      | _ => exact ⟨hplace, h.unbroken, h.dialect, rfl, h.stopped, hskipped⟩

lemma Respells.next? (h : l.Respells mark l') (hmark : IsReturn mark) :
    l.next?.1.map (relocate .lineColumn) = l'.next?.1.map (relocate .lineColumn) ∧
      l.next?.2.Respells mark l'.next?.2 := by
  rw [Lexer.next?, Lexer.next?, h.stopped]
  split
  · exact ⟨rfl, h⟩
  · exact (h.read hmark).imp_left (congrArg some)

lemma Respells.matches (h : l.Respells mark l') (hmark : IsReturn mark) :
    Matches .lineColumn l l' :=
  matches_of_related (fun _ _ h => h.next? hmark) (fun _ _ h => h.cursor.position.symm) h

lemma respells_ofSource {d : Dialect} (hd : d.Unbroken) {source : List Char}
    (hsource : '\r' ∉ source) :
    (ofSource d source).Respells mark (ofSource d (endLinesWith mark source)) :=
  ⟨hd, rfl, rfl, rfl, hsource, rfl, rfl⟩

end Lexer

/-! ### Parsed sources -/

/-- The error where what is read first is not the name of a rule. -/
def ParseError.ofFirst : Except LexError Token → ParseError
  | .ok token => .unexpectedToken .identifier token.kind token.position
  | .error error => .lex error

lemma ParseError.relocate_ofFirst (f : Position → Position) (first : Except LexError Token) :
    (ofFirst first).relocate f = ofFirst (Lexer.relocate f first) := by
  cases first <;> rfl

/-- With an empty delimiter nothing is parsed after what is read first. -/
lemma Grammar.parse_of_not_delimited {d : Dialect} (hd : ¬ d.Delimited) (source : List Char) :
    parse d source = .error (.ofFirst (Lexer.ofSource d source).read.1) := by
  have hfirst := Lexer.pull_stream (Lexer.next?_of_not_stopped (l := Lexer.ofSource d source) rfl)
  rw [parse_eq, ← hfirst]
  rcases hpull : (Lexer.ofSource d source).stream.pull with ⟨error | token, ahead⟩
  · rfl
  · have hp : Parser.ofSource d source = .ok ⟨token, ahead, d.concatenation.isSome⟩ := by
      rw [Parser.ofSource, hpull]
    have hpart : ¬ token.lexeme.part?.isSome :=
      fun hpart => hd ((Parser.follows_of_ofSource hp).2.2 hpart).1
    exact congrArg Prod.fst (Parser.grammar_of_part?_eq_none (by simpa using hpart))

namespace Lexer

/-- However lines end, in each source the same lexemes are yielded in the same lines and columns, and the same
kind of error or the end of the input after them; and the same grammar is read from them or the same error
reported, but for its offset. -/
theorem yields_endLinesWith {d : Dialect} (hd : d.Unbroken) (hmark : IsReturn mark)
    {source : List Char} (hsource : '\r' ∉ source) :
    (∀ i, ((ofSource d (endLinesWith mark source)).after i).next?.1.map (relocate .lineColumn) =
      ((ofSource d source).after i).next?.1.map (relocate .lineColumn)) ∧
    (Grammar.parse d (endLinesWith mark source)).mapError (ParseError.relocate .lineColumn) =
      (Grammar.parse d source).mapError (ParseError.relocate .lineColumn) := by
  have hmatches := (respells_ofSource hd hsource).matches hmark
  refine ⟨fun i => (hmatches i).1.symm, ?_⟩
  by_cases hdelimited : d.Delimited
  · have hstream := relocate_stream_of_matches hmatches hdelimited hdelimited rfl rfl
    exact (Grammar.mapError_parse_congr hstream).symm
  · have hfirst : relocate .lineColumn (ofSource d source).read.1 =
        relocate .lineColumn (ofSource d (endLinesWith mark source)).read.1 :=
      Option.some.inj (hmatches 0).1
    rw [Grammar.parse_of_not_delimited hdelimited, Grammar.parse_of_not_delimited hdelimited,
      Except.mapError, Except.mapError, ParseError.relocate_ofFirst, ParseError.relocate_ofFirst, hfirst]

theorem yields_endLinesWith_crLf : Dialect.bnf.Unbroken ∧ IsReturn ['\r', '\n'] ∧
    '\r' ∉ "a ::= 'b' # c\n\n | <d\n".toList ∧
    endLinesWith ['\r', '\n'] "a ::= 'b' # c\n\n | <d\n".toList =
      "a ::= 'b' # c\r\n\r\n | <d\r\n".toList ∧
    (∀ i, ((ofSource .bnf (endLinesWith ['\r', '\n'] "a ::= 'b' # c\n\n | <d\n".toList)).after
        i).next?.1.map (relocate .lineColumn) =
      ((ofSource .bnf "a ::= 'b' # c\n\n | <d\n".toList).after i).next?.1.map
        (relocate .lineColumn)) ∧
    (Grammar.parse .bnf (endLinesWith ['\r', '\n'] "a ::= 'b' # c\n\n | <d\n".toList)).mapError
        (ParseError.relocate .lineColumn) =
      (Grammar.parse .bnf "a ::= 'b' # c\n\n | <d\n".toList).mapError
        (ParseError.relocate .lineColumn) := by
  have hmark : IsReturn ['\r', '\n'] := .inl rfl
  have hsource : '\r' ∉ "a ::= 'b' # c\n\n | <d\n".toList := by decide
  exact ⟨Dialect.unbroken_bnf, hmark, hsource, rfl,
    yields_endLinesWith Dialect.unbroken_bnf hmark hsource⟩

end Lexer

end TypedGrammar
