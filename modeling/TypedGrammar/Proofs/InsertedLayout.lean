import TypedGrammar.Proofs.RuleEnd
import TypedGrammar.Proofs.SkippedTrivia
import TypedGrammar.Proofs.TokenPlace

/-!
# Inserted layout

Between two tokens there is room for layout: space, and comments with the line breaks that end them where line
breaks end no rules. A lexer that meets it yields what it would yield without it, only at other places. First
it yields what comes before the layout, which does not depend on it; then it skips the layout or ends a rule
there, and from then on the same text is left.
-/

namespace TypedGrammar

namespace Dialect

/-- Text that stands between tokens and ends no rule. -/
inductive Layout (d : Dialect) : List Char → Prop
  | nil : d.Layout []
  | space {c : Char} {pad : List Char} (hc : d.isSpace c = true) (hpad : d.Layout pad) :
      d.Layout (c :: pad)
  | comment {mark body pad : List Char} {c : Char} (hline : d.lineOriented = false)
      (hmark : d.comment = some mark) (hbody : ∀ c ∈ body, isLineBreak c = false)
      (hc : isLineBreak c = true) (hpad : d.Layout pad) : d.Layout (mark ++ body ++ c :: pad)

/-- Layout touches no token: first characters tell the delimiters apart, and one character makes a comment or
another alternative. -/
structure FreeLayout (d : Dialect) : Prop where
  toldApart : d.ToldApart
  unbroken : d.Unbroken
  plainMark : d.PlainMark
  alternative : ∃ c, d.alternative = [c]

variable {d : Dialect} {pad gap after text text' : List Char}

/-! ### Layout is blank -/

lemma Layout.blank (h : d.Layout pad) (after : List Char) : d.Blank after pad := by
  induction h with
  | nil => exact .nil
  | space hc _ ih => exact .space (Bool.and_eq_true_iff.mp hc).1 ih
  | comment _ hmark hbody hc _ ih =>
    exact .comment hmark hbody (by simp [hc]) (.space (isWhiteSpace_of_isLineBreak hc) ih)

lemma Layout.unbroken (h : d.Layout pad) (hline : d.lineOriented = true) :
    ∀ c ∈ pad, isLineBreak c = false := by
  induction h with
  | nil => simp
  | space hc _ ih => exact List.forall_mem_cons.mpr ⟨by simp_all [isSpace], ih⟩
  | comment hfalse => simp [hline] at hfalse

/-- Layout adds no line break where they count. -/
lemma Layout.any_append (h : d.Layout pad) (before after : List Char) :
    (d.lineOriented && (before ++ (pad ++ after)).any isLineBreak) =
      (d.lineOriented && (before ++ after).any isLineBreak) := by
  cases hline : d.lineOriented with
  | false => rfl
  | true =>
    have hany : pad.any isLineBreak = false := by simpa using h.unbroken hline
    rw [List.any_append, List.any_append, List.any_append, hany, Bool.false_or]

lemma isNameChar_of_isWhiteSpace {c : Char} (h : Unicode.isWhiteSpace c = true) :
    isNameChar c = false := by
  rw [← Bool.not_eq_true]
  intro hname
  simp only [isNameChar, Bool.or_eq_true, beq_iff_eq] at hname
  rcases hname with (hname | rfl) | rfl
  · rw [isWhiteSpace_of_isAlphanumeric hname] at h
    cases h
  · exact absurd h (by decide)
  · exact absurd h (by decide)

/-- No name reads on into layout. -/
lemma Layout.endsWord (h : d.Layout pad) (hd : d.PlainMark) (hafter : EndsWord after) :
    EndsWord (pad ++ after) := by
  cases h with
  | nil => exact hafter
  | space hc => exact endsWord_cons (isNameChar_of_isWhiteSpace (Bool.and_eq_true_iff.mp hc).1) _
  | comment _ hmark =>
    obtain ⟨c, rfl, _, hc⟩ := hd _ hmark
    exact endsWord_cons hc _

/-- Layout without line breaks extends the blank text before it, even if that ends with a comment: then nothing
follows, and the comment takes the layout in. -/
lemma Blank.append_layout (h : d.Blank after gap) (hafter : d.trivia? after = none) (hpad : d.Layout pad)
    (hline : d.lineOriented = true) : d.Blank after (gap ++ pad) := by
  induction h with
  | nil => exact hpad.blank after
  | space hc _ ih => exact .space hc ih
  | @comment mark body gap hmark hbody hend _ ih =>
    cases gap with
    | cons c gap =>
      rw [List.append_assoc]
      exact .comment hmark hbody (by simpa using hend) ih
    | nil =>
      cases after with
      | cons c after =>
        cases (isLineBreak_of_trivia?_eq_none hafter).symm.trans (hend c rfl)
      | nil =>
        have hlong : d.Blank [] (mark ++ (body ++ pad) ++ []) :=
          .comment hmark (List.forall_mem_append.mpr ⟨hbody, hpad.unbroken hline⟩) (by simp) .nil
        simpa using hlong

lemma FreeLayout.alternative_isPrefixOf (hd : d.FreeLayout) (hhead : text'.head? = text.head?) :
    d.alternative.isPrefixOf text' = d.alternative.isPrefixOf text := by
  obtain ⟨c, hc⟩ := hd.alternative
  rw [hc]
  cases text <;> cases text' <;> simp_all [List.isPrefixOf]

/-- What is scanned is a word of the text. -/
lemma exists_word_of_scan {lexeme : Lexeme} {k : ℕ} (hd : d.Delimited) (htrivia : d.trivia? text = none)
    (hscan : d.scan text = .ok (lexeme, k)) (hlexeme : lexeme ≠ .endOfInput) :
    ∃ word, word ≠ [] ∧ word.length = k ∧ text = word ++ text.drop k := by
  have hle := (extent_scan htrivia).1
  rw [hscan] at hle
  have hlength : (text.take k).length = k := List.length_take_of_le hle
  refine ⟨text.take k, ?_, hlength, (List.take_append_drop k text).symm⟩
  cases text with
  | nil =>
    cases hscan
    exact absurd rfl hlexeme
  | cons first text =>
    rw [← List.length_pos_iff, hlength]
    exact pos_of_scan hd hscan

lemma freeLayout_bnf : bnf.FreeLayout :=
  ⟨toldApart_bnf, unbroken_bnf, plainMark_bnf, '|', rfl⟩

lemma freeLayout_ebnf : ebnf.FreeLayout :=
  ⟨toldApart_ebnf, unbroken_of_all (by decide), plainMark_ebnf, '|', rfl⟩

end Dialect

/-- All places taken for one. -/
def Position.forget (_ : Position) : Position :=
  .start

namespace Lexer

/-- The lexers go on alike, if at different places. -/
structure Agrees (l l' : Lexer) : Prop where
  dialect : l'.dialect = l.dialect
  ruleOpen : l'.ruleOpen = l.ruleOpen
  stopped : l'.stopped = l.stopped
  rest : l'.cursor.rest = l.cursor.rest

/-- The lexers go on alike but for the pad: the second one has it before it where the first one will be after
`n` calls. -/
structure Delays (pad : List Char) (n : ℕ) (l l' : Lexer) : Prop where
  dialect : l'.dialect = l.dialect
  ruleOpen : l'.ruleOpen = l.ruleOpen
  not_stopped : (l.after n).stopped = false
  not_stopped' : l'.stopped = false
  rest : ∃ ahead, l.cursor.rest = ahead ++ (l.after n).cursor.rest ∧
    l'.cursor.rest = ahead ++ (pad ++ (l.after n).cursor.rest)

/-- The lexers go on alike until the texts before them depart from each other. The first one will have its rest of
the text before it after `n` calls. -/
structure Departs (tail tail' : List Char) (n : ℕ) (l l' : Lexer) : Prop where
  dialect : l'.dialect = l.dialect
  ruleOpen : l'.ruleOpen = l.ruleOpen
  not_stopped : (l.after n).stopped = false
  not_stopped' : l'.stopped = false
  rest_after : (l.after n).cursor.rest = tail
  rest : ∃ ahead, l.cursor.rest = ahead ++ tail ∧ l'.cursor.rest = ahead ++ tail'

/-- The lexer skips the gap as trivia and finds the cursor behind it. -/
structure SkipsOver (l : Lexer) (gap : List Char) (crossed : Option Position) (cursor : Cursor) : Prop where
  skipTrivia : l.dialect.skipTrivia none l.cursor = (crossed, cursor)
  rest : l.cursor.rest = gap ++ cursor.rest
  blank : l.dialect.Blank cursor.rest gap
  trivia? : l.dialect.trivia? cursor.rest = none

variable {l l' next : Lexer} {result : Except LexError Token} {crossed crossed' : Option Position}
  {cursor cursor' : Cursor} {position : Position} {pad gap gap' rest before tail tail' ahead : List Char} {n : ℕ}

/-! ### What calls leave to read -/

lemma not_stopped_of_after (h : (l.after n).stopped = false) : l.stopped = false := by
  by_contra hl
  rw [Bool.not_eq_false] at hl
  rw [after_of_stopped hl, hl] at h
  cases h

lemma exists_skipsOver (l : Lexer) : ∃ gap crossed cursor, l.SkipsOver gap crossed cursor := by
  have htrivia := l.dialect.trivia?_skipTrivia none l.cursor
  rcases hskip : l.dialect.skipTrivia none l.cursor with ⟨crossed, cursor⟩
  obtain ⟨gap, hgap, hblank, _⟩ := Dialect.blank_of_skipTrivia hskip
  rw [hskip] at htrivia
  exact ⟨gap, crossed, cursor, hskip, hgap, hblank, htrivia⟩

lemma rest_after_suffix (l : Lexer) (n : ℕ) : (l.after n).cursor.rest <:+ l.cursor.rest := by
  induction n generalizing l with
  | zero => exact List.suffix_rfl
  | succ n ih =>
    refine (ih l.next?.2).trans ?_
    unfold next?
    split
    · exact List.suffix_rfl
    · exact l.rest_read_suffix

lemma Delays.departs (h : Delays pad n l l') :
    Departs (l.after n).cursor.rest (pad ++ (l.after n).cursor.rest) n l l' :=
  ⟨h.dialect, h.ruleOpen, h.not_stopped, h.not_stopped', rfl, h.rest⟩

lemma Departs.delays (h : Departs tail (pad ++ tail) n l l') : Delays pad n l l' := by
  obtain ⟨hdialect, hopen, hstopped, hstopped', rfl, hrest⟩ := h
  exact ⟨hdialect, hopen, hstopped, hstopped', hrest⟩

/-- What is read first lies before the place where the texts depart. -/
lemma Departs.exists_ahead (h : Departs tail tail' (n + 1) l l') (hread : l.read = (result, next))
    (hrest : l.cursor.rest = before ++ next.cursor.rest) :
    (next.after n).stopped = false ∧ (next.after n).cursor.rest = tail ∧ ∃ ahead,
      next.cursor.rest = ahead ++ tail ∧ l'.cursor.rest = before ++ (ahead ++ tail') := by
  obtain ⟨_, _, hstopped, _, rfl, text, htext, htext'⟩ := h
  have hafter : l.after (n + 1) = next.after n := by
    rw [after, next?_of_read (not_stopped_of_after hstopped) hread]
  obtain ⟨ahead, hahead⟩ := next.rest_after_suffix n
  rw [hafter] at hstopped htext ⊢
  rw [hrest, ← hahead, ← List.append_assoc] at htext
  refine ⟨hstopped, rfl, ahead, hahead.symm, ?_⟩
  rw [htext', ← List.append_cancel_right htext, List.append_assoc]

/-! ### One call -/

lemma isSome_ruleEnd? (l : Lexer) (crossed : Option Position) (cursor : Cursor) :
    (l.ruleEnd? crossed cursor).isSome =
      (l.ruleOpen && (crossed.isSome && !l.dialect.alternative.isPrefixOf cursor.rest ||
        cursor.rest.isEmpty && l.dialect.lineOriented)) := by
  unfold ruleEnd?
  split
  · rename_i hopen
    rw [hopen, Bool.true_and]
    split
    · rename_i hcrossed
      rw [hcrossed, (Bool.and_eq_true_iff.mp hcrossed).1, Bool.true_or]
    · rename_i hcrossed
      rw [(Bool.not_eq_true _).mp hcrossed, Bool.false_or]
      split <;> simp_all
  · rename_i hclosed
    rw [(Bool.not_eq_true _).mp hclosed]
    rfl

/-- A lexer with other blank text before it skips that likewise. Where both texts hold line breaks or neither does,
and what follows them begins alike, a rule ends there in both lexers or in neither. -/
lemma SkipsOver.exists_alike (h : l.SkipsOver gap crossed cursor) (hd : l.dialect.FreeLayout)
    (hdialect : l'.dialect = l.dialect) (hopen : l'.ruleOpen = l.ruleOpen)
    (hrest : l'.cursor.rest = gap' ++ rest) (hblank : l.dialect.Blank rest gap')
    (hhead : rest.head? = cursor.rest.head?)
    (hbreak : (l.dialect.lineOriented && gap'.any isLineBreak) =
      (l.dialect.lineOriented && gap.any isLineBreak)) :
    ∃ crossed' cursor', l'.SkipsOver gap' crossed' cursor' ∧ cursor'.rest = rest ∧
      (l'.ruleEnd? crossed' cursor').isSome = (l.ruleEnd? crossed cursor).isSome := by
  have htrivia := Dialect.trivia?_eq_none_congr hd.plainMark h.trivia? hhead
  have hskipped := (Dialect.skipTrivia_of_blank hd.plainMark h.blank h.trivia? h.rest).2
  obtain ⟨hcursor', hskipped'⟩ := Dialect.skipTrivia_of_blank hd.plainMark hblank htrivia hrest
  rw [h.skipTrivia] at hskipped
  rcases hskip : l.dialect.skipTrivia none l'.cursor with ⟨crossed', cursor'⟩
  rw [hskip] at hcursor' hskipped'
  dsimp only at hskipped hcursor' hskipped'
  subst hcursor'
  have hempty : cursor'.rest.isEmpty = cursor.rest.isEmpty := by
    rw [Bool.eq_iff_iff, List.isEmpty_iff, List.isEmpty_iff, ← List.head?_eq_none_iff, hhead,
      List.head?_eq_none_iff]
  refine ⟨crossed', cursor', ⟨?_, hrest, ?_, ?_⟩, rfl, ?_⟩
  · rw [hdialect, hskip]
  · rwa [hdialect]
  · rwa [hdialect]
  · rw [isSome_ruleEnd?, isSome_ruleEnd?, hdialect, hopen, hskipped, hskipped', hbreak, hempty,
      hd.alternative_isPrefixOf hhead]

/-- Where the same text is left after trivia, lexers yield the same and go on alike. -/
lemma SkipsOver.read_agrees (h : l.SkipsOver gap crossed cursor)
    (h' : l'.SkipsOver gap' crossed' cursor') (hdialect : l'.dialect = l.dialect)
    (hopen : l'.ruleOpen = l.ruleOpen) (hstopped : l'.stopped = l.stopped)
    (hrest : cursor'.rest = cursor.rest)
    (hrule : (l'.ruleEnd? crossed' cursor').isSome = (l.ruleEnd? crossed cursor).isSome) :
    relocate .forget l.read.1 = relocate .forget l'.read.1 ∧ l.read.2.Agrees l'.read.2 := by
  cases hend : l.ruleEnd? crossed cursor with
  | some position =>
    rw [hend] at hrule
    obtain ⟨position', hend'⟩ := Option.isSome_iff_exists.mp hrule
    rw [read_of_ruleEnd h.skipTrivia hend, read_of_ruleEnd h'.skipTrivia hend']
    exact ⟨rfl, hdialect, rfl, hstopped, hrest⟩
  | none =>
    rw [hend] at hrule
    have hend' : l'.ruleEnd? crossed' cursor' = none := by simpa using hrule
    have hscan : l'.dialect.scan cursor'.rest = l.dialect.scan cursor.rest := by rw [hdialect, hrest]
    rw [read_of_skipTrivia h.skipTrivia, read_of_skipTrivia h'.skipTrivia, readFrom, readFrom, hend,
      hend', hscan]
    rcases l.dialect.scan cursor.rest with ⟨kind, n⟩ | ⟨lexeme, n⟩
    · exact ⟨rfl, hdialect, hopen, rfl, hrest⟩
    · have hdrop : (cursor'.skip n).rest = (cursor.skip n).rest := by
        rw [Cursor.rest_skip, Cursor.rest_skip, hrest]
      cases lexeme with
      | endOfInput => exact ⟨rfl, hdialect, hopen, rfl, hrest⟩
      | _ => exact ⟨rfl, hdialect, rfl, hstopped, hdrop⟩

/-- Lexers before the same text yield the same. -/
lemma Agrees.read (h : l.Agrees l') (hd : l.dialect.FreeLayout) :
    relocate .forget l.read.1 = relocate .forget l'.read.1 ∧ l.read.2.Agrees l'.read.2 := by
  obtain ⟨gap, crossed, cursor, hskips⟩ := l.exists_skipsOver
  obtain ⟨crossed', cursor', hskips', hcursor, hrule⟩ := hskips.exists_alike hd h.dialect h.ruleOpen
    (h.rest.trans hskips.rest) hskips.blank rfl rfl
  exact hskips.read_agrees hskips' h.dialect h.ruleOpen h.stopped hcursor hrule

/-- A lexer that goes on scans a token where the trivia ends, unless a rule ends there. -/
lemma SkipsOver.exists_scan (h : l.SkipsOver gap crossed cursor) (hnext : l.read.2.stopped = false)
    (hrule : l.ruleEnd? crossed cursor = none) :
    ∃ lexeme k, l.dialect.scan cursor.rest = .ok (lexeme, k) ∧ lexeme ≠ .endOfInput := by
  rw [read_of_skipTrivia h.skipTrivia, readFrom, hrule] at hnext
  dsimp only at hnext
  split at hnext
  · cases hnext
  · cases hnext
  · rename_i lexeme k hlexeme hscan
    exact ⟨lexeme, k, hscan, hlexeme⟩

/-! ### Calls before the texts depart -/

/-- A rule that ends before texts that begin alike ends in both. -/
lemma Departs.read_ruleEnd (h : Departs tail tail' (n + 1) l l') (hd : l.dialect.FreeLayout)
    (hskips : l.SkipsOver gap crossed cursor) (hend : l.ruleEnd? crossed cursor = some position)
    (hahead : cursor.rest = ahead ++ tail) (hhead : (ahead ++ tail').head? = (ahead ++ tail).head?) :
    relocate .forget l.read.1 = relocate .forget l'.read.1 ∧ Departs tail tail' n l.read.2 l'.read.2 := by
  have hread := read_of_ruleEnd hskips.skipTrivia hend
  obtain ⟨hnext, htail, ahead', hahead', hrest'⟩ := h.exists_ahead hread hskips.rest
  obtain rfl : ahead' = ahead := List.append_cancel_right (hahead'.symm.trans hahead)
  rw [← hahead] at hhead
  obtain ⟨crossed', cursor', hskips', hcursor, hrule⟩ := hskips.exists_alike hd h.dialect
    h.ruleOpen hrest' (hskips.blank.congr hhead) hhead rfl
  rw [hend] at hrule
  obtain ⟨position', hend'⟩ := Option.isSome_iff_exists.mp hrule
  rw [hread, read_of_ruleEnd hskips'.skipTrivia hend']
  exact ⟨rfl, h.dialect, rfl, hnext, h.not_stopped', htail, _, hahead, hcursor⟩

/-- A word is scanned before either text if no name can be read on into them. -/
lemma Departs.read_word (h : Departs tail tail' (n + 1) l l') (hd : l.dialect.FreeLayout)
    (hskips : l.SkipsOver gap crossed cursor) (hend : l.ruleEnd? crossed cursor = none)
    (hends : Dialect.EndsWord tail → Dialect.EndsWord tail') :
    relocate .forget l.read.1 = relocate .forget l'.read.1 ∧ Departs tail tail' n l.read.2 l'.read.2 := by
  have hnext : l.read.2.stopped = false := by
    have hafter := h.not_stopped
    rw [after, next?_of_not_stopped (not_stopped_of_after h.not_stopped)] at hafter
    exact not_stopped_of_after hafter
  obtain ⟨lexeme, k, hscan, hlexeme⟩ := hskips.exists_scan hnext hend
  obtain ⟨word, hword, rfl, htext⟩ :=
    Dialect.exists_word_of_scan hd.toldApart.delimited hskips.trivia? hscan hlexeme
  have hread := read_of_scan hskips.skipTrivia hend hscan hlexeme
  have hbefore : l.cursor.rest = (gap ++ word) ++ (cursor.skip word.length).rest := by
    rw [List.append_assoc, Cursor.rest_skip, ← htext, hskips.rest]
  obtain ⟨hstopped, htail, ahead, hahead, hrest'⟩ := h.exists_ahead hread hbefore
  rw [Cursor.rest_skip] at hahead
  rw [List.append_assoc] at hrest'
  rw [hahead] at htext
  rw [htext] at hscan
  have hends : Dialect.EndsWord (ahead ++ tail) → Dialect.EndsWord (ahead ++ tail') := by
    cases ahead with
    | nil => exact hends
    | cons first ahead => exact id
  have hscan' := hd.toldApart.scan_congr hword hscan hends
  have hhead : (word ++ (ahead ++ tail')).head? = cursor.rest.head? := by
    rw [htext, List.head?_append_of_ne_nil _ hword, List.head?_append_of_ne_nil _ hword]
  obtain ⟨crossed', cursor', hskips', hcursor, hrule⟩ := hskips.exists_alike hd h.dialect
    h.ruleOpen hrest' (hskips.blank.congr hhead) hhead rfl
  rw [hend] at hrule
  rw [← hcursor, ← h.dialect] at hscan'
  have hread' := read_of_scan hskips'.skipTrivia (by simpa using hrule) hscan' hlexeme
  rw [hread, hread']
  refine ⟨rfl, h.dialect, rfl, hstopped, h.not_stopped', htail, ahead, ?_, ?_⟩
  · rw [Cursor.rest_skip, hahead]
  · rw [Cursor.rest_skip, hcursor, List.drop_left]

/-- One call leaves the lexers before texts that begin alike. -/
lemma Departs.read (h : Departs tail tail' (n + 1) l l') (hd : l.dialect.FreeLayout)
    (hhead : tail'.head? = tail.head?) :
    relocate .forget l.read.1 = relocate .forget l'.read.1 ∧ Departs tail tail' n l.read.2 l'.read.2 := by
  obtain ⟨gap, crossed, cursor, hskips⟩ := l.exists_skipsOver
  cases hend : l.ruleEnd? crossed cursor with
  | some position =>
    obtain ⟨_, _, ahead, hahead, _⟩ :=
      h.exists_ahead (read_of_ruleEnd hskips.skipTrivia hend) hskips.rest
    exact h.read_ruleEnd hd hskips hend hahead (by rw [List.head?_append, List.head?_append, hhead])
  | none =>
    refine h.read_word hd hskips hend fun hends c hc => hends c ?_
    rwa [← hhead]

/-! ### Calls before the pad -/

lemma Delays.stopped_eq (h : Delays pad n l l') : l'.stopped = l.stopped :=
  h.not_stopped'.trans (not_stopped_of_after h.not_stopped).symm

/-- Where the pad comes next, it is skipped with the trivia after it. -/
lemma Delays.read_zero (h : Delays pad 0 l l') (hd : l.dialect.FreeLayout)
    (hpad : l.dialect.Layout pad) :
    relocate .forget l.read.1 = relocate .forget l'.read.1 ∧ l.read.2.Agrees l'.read.2 := by
  obtain ⟨gap, crossed, cursor, hskips⟩ := l.exists_skipsOver
  obtain ⟨ahead, hrest, hrest'⟩ := h.rest
  obtain rfl : ahead = [] := by simpa [after] using hrest
  rw [List.nil_append, after, hskips.rest, ← List.append_assoc] at hrest'
  obtain ⟨crossed', cursor', hskips', hcursor, hrule⟩ := hskips.exists_alike hd h.dialect
    h.ruleOpen hrest' ((hpad.blank _).append hskips.blank) rfl (hpad.any_append [] gap)
  exact hskips.read_agrees hskips' h.dialect h.ruleOpen h.stopped_eq hcursor hrule

/-- A rule that ends before the pad ends there with it too. -/
lemma Delays.read_ruleEnd (h : Delays pad (n + 1) l l') (hd : l.dialect.FreeLayout)
    (hpad : l.dialect.Layout pad) (hskips : l.SkipsOver gap crossed cursor)
    (hend : l.ruleEnd? crossed cursor = some position) :
    relocate .forget l.read.1 = relocate .forget l'.read.1 ∧
      (l.read.2.Agrees l'.read.2 ∨ Delays pad n l.read.2 l'.read.2) := by
  obtain ⟨_, _, ahead, hahead, hrest'⟩ :=
    h.departs.exists_ahead (read_of_ruleEnd hskips.skipTrivia hend) hskips.rest
  dsimp only at hahead
  cases ahead with
  | nil =>
    -- The rule ends where the pad is, and that goes on with the trivia before it.
    have hline := lineOriented_of_ruleEnd? hskips.skipTrivia hend
    have hbreak := hpad.any_append gap []
    rw [List.append_nil, List.append_nil] at hbreak
    rw [List.nil_append] at hahead hrest'
    rw [← hahead, ← List.append_assoc] at hrest'
    obtain ⟨crossed', cursor', hskips', hcursor, hrule⟩ := hskips.exists_alike hd h.dialect
      h.ruleOpen hrest' (hskips.blank.append_layout hskips.trivia? hpad hline) rfl hbreak
    exact (hskips.read_agrees hskips' h.dialect h.ruleOpen h.stopped_eq hcursor hrule).imp_right .inl
  | cons first ahead =>
    exact (h.departs.read_ruleEnd hd hskips hend hahead rfl).imp_right fun h => .inr h.delays

/-- A word before the pad is scanned with it too. -/
lemma Delays.read_word (h : Delays pad (n + 1) l l') (hd : l.dialect.FreeLayout)
    (hpad : l.dialect.Layout pad) (hskips : l.SkipsOver gap crossed cursor)
    (hend : l.ruleEnd? crossed cursor = none) :
    relocate .forget l.read.1 = relocate .forget l'.read.1 ∧ Delays pad n l.read.2 l'.read.2 :=
  (h.departs.read_word hd hskips hend (hpad.endsWord hd.plainMark)).imp_right Departs.delays

/-- One call keeps the pad before the second lexer, or takes it away. -/
lemma Delays.read (h : Delays pad n l l') (hd : l.dialect.FreeLayout) (hpad : l.dialect.Layout pad) :
    relocate .forget l.read.1 = relocate .forget l'.read.1 ∧
      (l.read.2.Agrees l'.read.2 ∨ ∃ m, Delays pad m l.read.2 l'.read.2) := by
  cases n with
  | zero => exact (h.read_zero hd hpad).imp_right .inl
  | succ n =>
    obtain ⟨gap, crossed, cursor, hskips⟩ := l.exists_skipsOver
    cases hend : l.ruleEnd? crossed cursor with
    | some position => exact (h.read_ruleEnd hd hpad hskips hend).imp_right (.imp_right fun h => ⟨n, h⟩)
    | none => exact (h.read_word hd hpad hskips hend).imp_right fun h => .inr ⟨n, h⟩

/-! ### All calls -/

lemma Agrees.next? (h : l.Agrees l') (hd : l.dialect.FreeLayout) :
    l.next?.1.map (relocate .forget) = l'.next?.1.map (relocate .forget) ∧
      l.next?.2.Agrees l'.next?.2 := by
  rw [Lexer.next?, Lexer.next?, h.stopped]
  split
  · exact ⟨rfl, h⟩
  · exact (h.read hd).imp_left (congrArg some)

lemma dialect_next? (l : Lexer) : l.next?.2.dialect = l.dialect := by
  unfold Lexer.next?
  split
  · rfl
  · exact l.dialect_read

/-- Lexers match if each call that yields the same leaves them to go on alike or keeps whatever relates them. -/
theorem matches_of_agrees {R : Lexer → Lexer → Prop} (hd : l.dialect.FreeLayout)
    (hcall : ∀ k k', R k k' → k.dialect = l.dialect → k.stopped = false ∧ k'.stopped = false ∧
      relocate .forget k.read.1 = relocate .forget k'.read.1 ∧
        (k.read.2.Agrees k'.read.2 ∨ R k.read.2 k'.read.2))
    (h : R l l') : Matches .forget l l' := by
  refine matches_of_related (R := fun k k' => k.dialect = l.dialect ∧ (k.Agrees k' ∨ R k k')) ?_
    (fun _ _ _ => rfl) ⟨rfl, .inr h⟩
  rintro k k' ⟨hdialect, hagrees | hrelated⟩
  · obtain ⟨hitem, hnext⟩ := hagrees.next? (hdialect ▸ hd)
    exact ⟨hitem, k.dialect_next?.trans hdialect, .inl hnext⟩
  · obtain ⟨hstopped, hstopped', hitem, hnext⟩ := hcall k k' hrelated hdialect
    rw [next?_of_not_stopped hstopped, next?_of_not_stopped hstopped']
    exact ⟨congrArg some hitem, k.dialect_read.trans hdialect, hnext⟩

/-- The second lexer yields what the first one does, before the pad and after it. -/
theorem Delays.matches (h : Delays pad n l l') (hd : l.dialect.FreeLayout)
    (hpad : l.dialect.Layout pad) : Matches .forget l l' := by
  refine matches_of_agrees (R := fun k k' => ∃ m, Delays pad m k k') hd ?_ ⟨n, h⟩
  rintro k k' ⟨m, hdelays⟩ hdialect
  have hread := hdelays.read (hdialect ▸ hd) (hdialect ▸ hpad)
  exact ⟨not_stopped_of_after hdelays.not_stopped, hdelays.not_stopped', hread⟩

end Lexer

/-! ### Sources -/

/-- A text can be cut after so many bytes in one way only. -/
lemma append_inj_of_byteLength {a a' b b' : List Char} (h : a ++ b = a' ++ b')
    (hbytes : byteLength a = byteLength a') : a = a' ∧ b = b' := by
  induction a generalizing a' with
  | nil =>
    cases a' with
    | nil => exact ⟨rfl, h⟩
    | cons c a' =>
      have hpos := c.utf8Size_pos
      simp only [byteLength] at hbytes
      omega
  | cons c a ih =>
    cases a' with
    | nil =>
      have hpos := c.utf8Size_pos
      simp only [byteLength] at hbytes
      omega
    | cons c' a' =>
      obtain ⟨rfl, htail⟩ := List.cons.inj h
      obtain ⟨rfl, hb⟩ := ih htail (Nat.add_left_cancel hbytes)
      exact ⟨rfl, hb⟩

namespace Lexer

variable {d : Dialect} {before after after' pad : List Char} {n : ℕ}

/-- Where a lexer stands after some calls, the source can go on otherwise. -/
lemma departs_ofSource (hd : d.FreeLayout)
    (hstopped : ((ofSource d (before ++ after)).after n).stopped = false)
    (hoffset : ((ofSource d (before ++ after)).after n).location.offset = byteLength before) :
    Departs after after' n (ofSource d (before ++ after)) (ofSource d (before ++ after')) := by
  obtain ⟨read, hsource, _, hposition⟩ :=
    ((stands_ofSource hd.unbroken (before ++ after)).after n).cursor
  rw [location, hposition, Position.afterText] at hoffset
  obtain ⟨rfl, hrest⟩ := append_inj_of_byteLength hsource hoffset.symm
  exact ⟨rfl, rfl, hstopped, rfl, hrest.symm, before, rfl, rfl⟩

/-- Layout that is inserted where a lexer stands after some calls, while it has not stopped, changes nothing but
places: the same lexemes are yielded and the same kind of error or the end of input after them, and the same
grammar is read from them or the same kind of error reported. -/
theorem yields_insert_layout (hd : d = .bnf ∨ d = .ebnf)
    (hstopped : ((ofSource d (before ++ after)).after n).stopped = false)
    (hoffset : ((ofSource d (before ++ after)).after n).location.offset = byteLength before)
    (hpad : d.Layout pad) :
    (∀ i, ((ofSource d (before ++ (pad ++ after))).after i).next?.1.map (relocate .forget) =
      ((ofSource d (before ++ after)).after i).next?.1.map (relocate .forget)) ∧
    (Grammar.parse d (before ++ (pad ++ after))).mapError (ParseError.relocate .forget) =
      (Grammar.parse d (before ++ after)).mapError (ParseError.relocate .forget) := by
  have hfree : d.FreeLayout := by
    rcases hd with rfl | rfl
    · exact Dialect.freeLayout_bnf
    · exact Dialect.freeLayout_ebnf
  have hdelays : Delays pad n _ _ := (departs_ofSource hfree hstopped hoffset).delays
  have hmatches := hdelays.matches hfree hpad
  refine ⟨fun i => (hmatches i).1.symm, (Grammar.mapError_parse_congr ?_).symm⟩
  exact relocate_stream_of_matches hmatches hfree.toldApart.delimited hfree.toldApart.delimited rfl rfl

theorem yields_insert_comment : (Dialect.ebnf = .bnf ∨ Dialect.ebnf = .ebnf) ∧
    ((ofSource .ebnf ("a=b".toList ++ ",c;".toList)).after 3).stopped = false ∧
    ((ofSource .ebnf ("a=b".toList ++ ",c;".toList)).after 3).location.offset =
      byteLength "a=b".toList ∧
    Dialect.ebnf.Layout " #;\n".toList ∧
    (∀ i, ((ofSource .ebnf ("a=b".toList ++ (" #;\n".toList ++ ",c;".toList))).after i).next?.1.map
        (relocate .forget) =
      ((ofSource .ebnf ("a=b".toList ++ ",c;".toList)).after i).next?.1.map (relocate .forget)) ∧
    (Grammar.parse .ebnf ("a=b".toList ++ (" #;\n".toList ++ ",c;".toList))).mapError
        (ParseError.relocate .forget) =
      (Grammar.parse .ebnf ("a=b".toList ++ ",c;".toList)).mapError (ParseError.relocate .forget) := by
  have hd : Dialect.ebnf = .bnf ∨ Dialect.ebnf = .ebnf := .inr rfl
  have hstopped : ((ofSource .ebnf ("a=b".toList ++ ",c;".toList)).after 3).stopped = false := by
    decide +kernel
  have hoffset : ((ofSource .ebnf ("a=b".toList ++ ",c;".toList)).after 3).location.offset =
      byteLength "a=b".toList := by decide +kernel
  have hcomment : Dialect.ebnf.Layout (['#'] ++ [';'] ++ ['\n']) :=
    .comment rfl rfl (by simp [isLineBreak]) (by decide) .nil
  have hpad : Dialect.ebnf.Layout " #;\n".toList := .space (by decide) hcomment
  exact ⟨hd, hstopped, hoffset, hpad, yields_insert_layout hd hstopped hoffset hpad⟩

end Lexer

end TypedGrammar
