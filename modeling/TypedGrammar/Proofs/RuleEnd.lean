import TypedGrammar.Proofs.LexedPosition
import TypedGrammar.Proofs.ScannedWord
import TypedGrammar.Proofs.TokenSpan

/-!
# Ends of rules

In line oriented source a lexer ends a rule where a line does. Its tokens come in blocks, each of them a rule
with one end after it, and an end stands between two tokens exactly if there is a line break between them and
the second of them does not go on with another alternative.
-/

namespace TypedGrammar

/-- One or more tokens and the end of a rule, any number of times. -/
def EndsRules (kinds : List TokenKind) : Prop :=
  ∃ blocks : List (List TokenKind), kinds = blocks.flatMap (· ++ [.ruleTerminator]) ∧
    ∀ block ∈ blocks, block ≠ [] ∧ ∀ kind ∈ block, kind ≠ .ruleTerminator ∧ kind ≠ .endOfInput

/-- Where the first line break of `gap` is when `before` is the source before it. -/
def firstBreak? (before gap : List Char) : Option Position :=
  if gap.any isLineBreak then some (.afterText (before ++ gap.takeWhile (!isLineBreak ·))) else none

/-- In the source the first token is scanned from `word` after `before`, and the second from `text`. Between
them there is nothing but `gap`, which is blank. -/
structure Dialect.GapBetween (d : Dialect) (source : List Char) (first second : Token)
    (before word gap text : List Char) : Prop where
  source_eq : source = before ++ (word ++ (gap ++ text))
  first_position : first.position = .afterText before
  first_scan : d.scan (word ++ (gap ++ text)) = .ok (first.lexeme, word.length)
  gap_blank : d.Blank text gap
  second_position : second.position = .afterText (before ++ word ++ gap)
  second_scan : ∃ n, d.scan text = .ok (second.lexeme, n)

/-! ### The first line break that is skipped -/

section

variable {before gap chunk : List Char} {c : Char}

lemma firstBreak?_nil (before : List Char) : firstBreak? before [] = none := rfl

lemma firstBreak?_cons (hc : isLineBreak c = true) (before gap : List Char) :
    firstBreak? before (c :: gap) = some (.afterText before) := by
  simp [firstBreak?, hc]

lemma firstBreak?_append (hchunk : ∀ c ∈ chunk, isLineBreak c = false) (before gap : List Char) :
    firstBreak? before (chunk ++ gap) = firstBreak? (before ++ chunk) gap := by
  have hany : chunk.any isLineBreak = false := by simpa using hchunk
  have htake : (chunk ++ gap).takeWhile (!isLineBreak ·) =
      chunk ++ gap.takeWhile (!isLineBreak ·) :=
    List.takeWhile_append_of_pos fun c hc => by simp [hchunk c hc]
  rw [firstBreak?, firstBreak?, List.any_append, hany, Bool.false_or, htake, List.append_assoc]

lemma firstBreak?_eq (before gap : List Char) :
    (firstBreak? before gap).toList.map (⟨.ruleTerminator, ·⟩) =
    if gap.any isLineBreak then
      [Token.mk .ruleTerminator (.afterText (before ++ gap.takeWhile (!isLineBreak ·)))]
    else [] := by
  unfold firstBreak?
  split <;> rfl

end

namespace Dialect

variable {d : Dialect} {text : List Char} {n : ℕ}

/-- Only what is skipped as line breaks holds line breaks. -/
lemma unbroken_of_trivia? (hd : d.Unbroken) (hline : d.lineOriented = true) {t : Trivia}
    (h : d.trivia? text = some (t, n)) (ht : t ≠ .lineBreak) :
    ∀ c ∈ text.take n, isLineBreak c = false := by
  unfold trivia? at h
  split at h
  · cases h
    refine (onLine_takeWhile (fun c hc => ?_) text).2
    simpa [isSpace, hline] using (Bool.and_eq_true_iff.mp hc).2
  · split at h
    · cases h
      exact (onLine_commentLength hd text).2
    · split at h
      · cases h
        exact absurd rfl ht
      · cases h

lemma exists_cons_of_trivia? (h : d.trivia? text = some (.lineBreak, n)) :
    ∃ c rest, text.take n = c :: rest ∧ isLineBreak c = true := by
  unfold trivia? at h
  split at h
  · cases h
  · split at h
    · cases h
    · split at h
      · rename_i hpos
        cases h
        unfold lineBreakLength at hpos ⊢
        split at hpos
        · rename_i hline
          rw [if_pos hline, take_takeWhile]
          obtain ⟨c, rest, hrun⟩ := List.exists_cons_of_ne_nil (List.length_pos_iff.mp hpos)
          have hc : c ∈ text.takeWhile isLineBreak := by simp [hrun]
          exact ⟨c, rest, hrun, List.mem_takeWhile_imp hc⟩
        · cases hpos
      · cases h

/-- What is skipped is blank, and the first line break in it is the one that is reported. -/
lemma skipTrivia_firstBreak? (hd : d.Unbroken) (hline : d.lineOriented = true) {before : List Char}
    (crossed : Option Position) (cursor : Cursor) (hposition : cursor.position = .afterText before)
    (huncut : Uncut before cursor.rest) :
    ∃ gap, cursor.rest = gap ++ (d.skipTrivia crossed cursor).2.rest ∧
      (d.skipTrivia crossed cursor).2.position = .afterText (before ++ gap) ∧
      (d.skipTrivia crossed cursor).1 = crossed.or (firstBreak? before gap) := by
  fun_induction skipTrivia d crossed cursor generalizing before with
  | case1 crossed cursor h =>
    exact ⟨[], rfl, by rw [hposition, List.append_nil], by rw [firstBreak?_nil, Option.or_none]⟩
  | case2 crossed cursor t n h ih =>
    simp only [dite_eq_ite] at ih
    have hrest := List.take_append_drop n cursor.rest
    have hchunk : Uncut before (cursor.rest.take n) := by
      rw [← hrest] at huncut
      exact huncut.of_append_right
    obtain ⟨gap, hgap, hend, hcrossed⟩ := @ih (before ++ cursor.rest.take n)
      (by rw [Cursor.skip, hposition, Position.advance_afterText hchunk])
      ((uncut_of_trivia? hd h).append_left (by rwa [hrest]))
    refine ⟨cursor.rest.take n ++ gap, ?_, by rw [hend, List.append_assoc], ?_⟩
    · rw [List.append_assoc, ← hgap, Cursor.rest_skip, hrest]
    · rw [hcrossed]
      by_cases ht : t = .lineBreak
      · subst ht
        obtain ⟨c, rest, htake, hc⟩ := exists_cons_of_trivia? h
        rw [if_pos rfl, htake, List.cons_append, firstBreak?_cons hc, ← hposition,
          Option.or_assoc, Option.some_or]
      · rw [if_neg ht, firstBreak?_append (unbroken_of_trivia? hd hline h ht)]

end Dialect

/-! ### Open and closed rules -/

namespace EndsRules

lemma nil : EndsRules [] :=
  ⟨[], rfl, by simp⟩

lemma append {block rest : List TokenKind} (hblock : block ≠ [])
    (hkinds : ∀ kind ∈ block, kind ≠ .ruleTerminator ∧ kind ≠ .endOfInput) (h : EndsRules rest) :
    EndsRules (block ++ .ruleTerminator :: rest) := by
  obtain ⟨blocks, rfl, hblocks⟩ := h
  exact ⟨block :: blocks, by simp, List.forall_mem_cons.mpr ⟨⟨hblock, hkinds⟩, hblocks⟩⟩

end EndsRules

lemma Token.kind_ne_endOfInput {token : Token} (h : token.lexeme ≠ .endOfInput) :
    token.kind ≠ .endOfInput := by
  unfold Token.kind
  cases hlexeme : token.lexeme <;> simp_all [Lexeme.kind]

namespace Lexer

variable {l next after : Lexer} {token first second : Token} {tokens ends : List Token}
  {crossed : Option Position} {cursor : Cursor}

lemma kind_ne_of_isScanned {d : Dialect} (hline : d.lineOriented = true) {lexeme : Lexeme}
    (h : lexeme.isScanned d = true) : lexeme.kind ≠ .ruleTerminator := by
  cases lexeme with
  | ruleTerminator => simp [Lexeme.isScanned, hline] at h
  | _ => simp [Lexeme.kind]

/-- A token ends the open rule, or it leaves a rule open. -/
lemma Reads.ruleOpen (h : l.Reads (.ok token) next) (hline : l.dialect.lineOriented = true)
    (htoken : token.lexeme ≠ .endOfInput) :
    (token.kind = .ruleTerminator ∧ l.ruleOpen = true ∧ next.ruleOpen = false) ∨
      (token.kind ≠ .ruleTerminator ∧ next.ruleOpen = true) := by
  cases h with
  | ruleEnd hskip hrule => exact .inl ⟨rfl, (ruleEnd?_eq_some hrule).1, rfl⟩
  | endOfInput => exact absurd rfl htoken
  | token hskip hrest hscan =>
    have hkind := kind_ne_of_isScanned hline (Dialect.isScanned_of_scan hscan)
    refine .inr ⟨hkind, ?_⟩
    simp only [ne_eq, decide_eq_true_eq]
    rintro rfl
    exact hkind rfl

lemma ruleEnd?_eq_none (hread : l.read = (.ok token, next))
    (hskip : l.dialect.skipTrivia none l.cursor = (crossed, cursor))
    (htoken : token.kind ≠ .ruleTerminator) : l.ruleEnd? crossed cursor = none := by
  refine Option.eq_none_iff_forall_ne_some.mpr fun position hrule => htoken ?_
  rw [read_of_ruleEnd hskip hrule] at hread
  cases hread
  rfl

/-- The input of line oriented source does not end before the open rule does. -/
lemma ruleOpen_of_endOfInput (hline : l.dialect.lineOriented = true)
    (hread : l.read = (.ok token, next)) (htoken : token.lexeme = .endOfInput) :
    l.ruleOpen = false := by
  have hreads := l.reads_read
  rw [hread] at hreads
  cases hreads with
  | ruleEnd => cases htoken
  | token hskip hrest hscan =>
    have hscanned := Dialect.isScanned_of_scan hscan
    obtain rfl := htoken
    cases hscanned
  | endOfInput hskip hrest =>
    by_contra hopen
    have hnone := ruleEnd?_eq_none hread hskip (by simp [Token.kind, Lexeme.kind])
    rw [ruleEnd?, if_pos (by simpa using hopen)] at hnone
    split at hnone
    · rename_i hcrossed
      rw [hnone] at hcrossed
      cases hcrossed
    · simp [hrest, hline] at hnone

/-- Up to a place where no rule is open, the tokens end all rules; first of all the one that is open. -/
lemma Yields.endsRules (h : l.Yields tokens after) (hline : l.dialect.lineOriented = true)
    (hafter : after.ruleOpen = false) (htokens : ∀ token ∈ tokens, token.lexeme ≠ .endOfInput) :
    (l.ruleOpen = false → EndsRules (tokens.map Token.kind)) ∧
      (l.ruleOpen = true → ∃ block rest, tokens.map Token.kind = block ++ .ruleTerminator :: rest ∧
        (∀ kind ∈ block, kind ≠ .ruleTerminator ∧ kind ≠ .endOfInput) ∧ EndsRules rest) := by
  induction h with
  | nil => exact ⟨fun _ => .nil, fun hopen => (by rw [hopen] at hafter; cases hafter)⟩
  | @cons l next after token tokens hnext hrest ih =>
    obtain ⟨htoken, htokens⟩ := List.forall_mem_cons.mp htokens
    obtain ⟨hdialect, _, _⟩ := next?_eq_ok hnext htoken
    obtain ⟨hclosed, hopen⟩ := ih (by rw [hdialect, hline]) hafter htokens
    have hreads := l.reads_read
    rw [(read_of_next? hnext).1] at hreads
    rcases hreads.ruleOpen hline htoken with ⟨hkind, hbefore, hend⟩ | ⟨hkind, hend⟩
    · refine ⟨fun h => (by rw [h] at hbefore; cases hbefore), fun _ => ?_⟩
      exact ⟨[], _, by rw [List.map_cons, hkind, List.nil_append], by simp, hclosed hend⟩
    · obtain ⟨block, rest, hkinds, hblock, hrules⟩ := hopen hend
      have hblock : ∀ kind ∈ token.kind :: block, kind ≠ .ruleTerminator ∧ kind ≠ .endOfInput :=
        List.forall_mem_cons.mpr ⟨⟨hkind, Token.kind_ne_endOfInput htoken⟩, hblock⟩
      rw [List.map_cons, hkinds, ← List.cons_append]
      exact ⟨fun _ => .append (by simp) hblock hrules, fun _ => ⟨_, rest, rfl, hblock, hrules⟩⟩

/-! ### From one token to the next -/

/-- A token that ends no rule is scanned from its word, and the lexer stands behind that. -/
lemma Stands.word {source : List Char} (h : l.Stands source)
    (hnext : l.next? = (some (.ok token), next)) (hkind : token.kind ≠ .ruleTerminator)
    (htoken : token.lexeme ≠ .endOfInput) :
    ∃ before word, source = before ++ (word ++ next.cursor.rest) ∧
      token.position = .afterText before ∧
      l.dialect.scan (word ++ next.cursor.rest) = .ok (token.lexeme, word.length) ∧
      next.cursor.position = .afterText (before ++ word) ∧
      Uncut (before ++ word) next.cursor.rest := by
  obtain ⟨hd, hcursor⟩ := h
  have hskipped := Dialect.isIn_skipTrivia hd hcursor (by simp : ∀ p ∈ (none : Option Position), _)
  have htrivia := l.dialect.trivia?_skipTrivia none l.cursor
  have hreads := l.reads_read
  rw [(read_of_next? hnext).1] at hreads
  cases hreads with
  | ruleEnd => exact absurd rfl hkind
  | endOfInput => exact absurd rfl htoken
  | @token crossed cursor first text lexeme n hskip hrest hscan =>
    rw [hskip] at hskipped htrivia
    obtain ⟨before, hsource, huncut, hposition⟩ := hskipped.1
    have hcut := Dialect.uncut_of_scan hd htrivia
    have hextent := (Dialect.extent_scan htrivia).1
    rw [← hrest] at hscan
    dsimp only at hcut hextent hsource huncut hposition
    rw [hscan] at hcut hextent
    dsimp only [Dialect.extent] at hcut hextent
    have htext := List.take_append_drop n cursor.rest
    refine ⟨before, cursor.rest.take n, ?_, hposition, ?_, ?_, ?_⟩
    · rw [Cursor.rest_skip, htext, hsource]
    · rw [Cursor.rest_skip, htext, List.length_take_of_le hextent, hscan]
    · rw [Cursor.skip, hposition, Position.advance_afterText]
      rw [← htext] at huncut
      exact huncut.of_append_right
    · exact hcut.append_left (by rw [htext]; exact huncut)

lemma yields_cons_iff : l.Yields (token :: tokens) after ↔
    ∃ next, l.next? = (some (.ok token), next) ∧ next.Yields tokens after := by
  constructor
  · rintro (_ | ⟨hnext, hrest⟩)
    exact ⟨_, hnext, hrest⟩
  · rintro ⟨next, hnext, hrest⟩
    exact .cons hnext hrest

/-- A token that ends no rule is scanned where the trivia ends. -/
lemma scans_of_read (hread : l.read = (.ok token, next))
    (hskip : l.dialect.skipTrivia none l.cursor = (crossed, cursor))
    (hkind : token.kind ≠ .ruleTerminator) (htoken : token.lexeme ≠ .endOfInput) :
    cursor.rest ≠ [] ∧ token.position = cursor.position ∧
      ∃ n, l.dialect.scan cursor.rest = .ok (token.lexeme, n) := by
  have hreads := l.reads_read
  rw [hread] at hreads
  cases hreads with
  | ruleEnd => exact absurd rfl hkind
  | endOfInput => exact absurd rfl htoken
  | token hskip' hrest hscan =>
    obtain ⟨rfl, rfl⟩ := Prod.mk.inj (hskip.symm.trans hskip')
    rw [← hrest] at hscan
    exact ⟨by simp [hrest], rfl, _, hscan⟩

/-- The end of a rule leaves the lexer where the trivia ends, with no rule open. -/
lemma ruleEnd?_of_read (hread : l.read = (.ok token, next)) (hline : l.dialect.lineOriented = true)
    (hskip : l.dialect.skipTrivia none l.cursor = (crossed, cursor))
    (hkind : token.kind = .ruleTerminator) :
    ∃ position, token = ⟨.ruleTerminator, position⟩ ∧ l.ruleEnd? crossed cursor = some position ∧
      next = { l with cursor := cursor, ruleOpen := false } := by
  have hreads := l.reads_read
  rw [hread] at hreads
  cases hreads with
  | ruleEnd hskip' hrule =>
    obtain ⟨rfl, rfl⟩ := Prod.mk.inj (hskip.symm.trans hskip')
    exact ⟨_, rfl, hrule, rfl⟩
  | endOfInput => cases hkind
  | token _ _ hscan => exact absurd hkind (kind_ne_of_isScanned hline (Dialect.isScanned_of_scan hscan))

/-- Before more text an open rule ends where a line break was crossed, unless an alternative follows. -/
lemma ruleEnd?_of_ne_nil (hopen : l.ruleOpen = true) (hrest : cursor.rest ≠ []) :
    l.ruleEnd? crossed cursor =
      if l.dialect.alternative <+: cursor.rest then none else crossed := by
  rw [ruleEnd?, if_pos hopen]
  by_cases halternative : l.dialect.alternative <+: cursor.rest
  · simp [halternative, hrest]
  · cases crossed <;> simp [halternative, hrest]

/-- While a rule is open, either a token follows at once or one end of the rule and then a token. The end is
at the first line break that is skipped. -/
lemma Yields.ends_eq (h : l.Yields (ends ++ [token]) after) (hd : l.dialect.Unbroken)
    (hline : l.dialect.lineOriented = true) (hopen : l.ruleOpen = true) {before : List Char}
    (hposition : l.cursor.position = .afterText before) (huncut : Uncut before l.cursor.rest)
    (hends : ∀ last ∈ ends, last.kind = .ruleTerminator) (hkind : token.kind ≠ .ruleTerminator)
    (htoken : token.lexeme ≠ .endOfInput) :
    ∃ gap text, l.cursor.rest = gap ++ text ∧ l.dialect.Blank text gap ∧
      token.position = .afterText (before ++ gap) ∧
      (∃ n, l.dialect.scan text = .ok (token.lexeme, n)) ∧
      ends = (if l.dialect.alternative <+: text then none else firstBreak? before gap).toList.map
        (⟨.ruleTerminator, ·⟩) := by
  obtain ⟨gap, hgap, hend, hcrossed⟩ :=
    Dialect.skipTrivia_firstBreak? hd hline none l.cursor hposition huncut
  have htrivia := l.dialect.trivia?_skipTrivia none l.cursor
  rcases hskip : l.dialect.skipTrivia none l.cursor with ⟨crossed, cursor⟩
  rw [hskip] at hgap hend hcrossed htrivia
  obtain ⟨blank, hblank, hisBlank, _⟩ := Dialect.blank_of_skipTrivia hskip
  obtain rfl := List.append_cancel_right (hgap.symm.trans hblank)
  rw [Option.none_or] at hcrossed
  dsimp only at hgap hend hcrossed htrivia
  refine ⟨gap, cursor.rest, hgap, hisBlank, ?_⟩
  rw [← hend, ← hcrossed]
  cases ends with
  | nil =>
    obtain ⟨next, hnext, _⟩ := yields_cons_iff.mp h
    obtain ⟨hrest, hplace, hscan⟩ := scans_of_read (read_of_next? hnext).1 hskip hkind htoken
    have hnone := ruleEnd?_eq_none (read_of_next? hnext).1 hskip hkind
    rw [ruleEnd?_of_ne_nil hopen hrest] at hnone
    exact ⟨hplace, hscan, by rw [hnone]; rfl⟩
  | cons last ends =>
    obtain ⟨hlast, hothers⟩ := List.forall_mem_cons.mp hends
    obtain ⟨next, hnext, hmore⟩ := yields_cons_iff.mp h
    obtain ⟨position, rfl, hrule, rfl⟩ :=
      ruleEnd?_of_read (read_of_next? hnext).1 hline hskip hlast
    -- No rule is open any more, so that no second end can follow the first.
    obtain rfl : ends = [] := by
      cases ends with
      | nil => rfl
      | cons other ends =>
        obtain ⟨_, hother, _⟩ := yields_cons_iff.mp hmore
        obtain ⟨_, _, hagain, _⟩ := ruleEnd?_of_read (read_of_next? hother).1 hline
          (Dialect.skipTrivia_of_none htrivia) (hothers other List.mem_cons_self)
        cases (ruleEnd?_eq_some hagain).1
    obtain ⟨_, hsecond, _⟩ := yields_cons_iff.mp hmore
    obtain ⟨hrest, hplace, hscan⟩ := scans_of_read (read_of_next? hsecond).1
      (Dialect.skipTrivia_of_none htrivia) hkind htoken
    rw [ruleEnd?_of_ne_nil hopen hrest] at hrule
    exact ⟨hplace, hscan, by rw [hrule]; rfl⟩

/-- What a lexer yields before its last item it yields one token after another. -/
lemma Exhausts.yields {last : Except LexError Token} (h : l.Exhausts tokens last) :
    ∃ after, l.Yields tokens after ∧ after.next?.1 = some last := by
  induction tokens generalizing l with
  | nil => exact ⟨l, .nil, h.next?_after 0⟩
  | cons token tokens ih =>
    obtain ⟨hnext, heq, htokens⟩ := h
    have htail : l.next?.2.Exhausts tokens last :=
      ⟨fun i => hnext (i + 1), fun i hi => heq (i + 1) (Nat.succ_lt_succ hi),
        (List.forall_mem_cons.mp htokens).2⟩
    obtain ⟨after, hyields, hlast⟩ := ih htail
    exact ⟨after, .cons (Prod.ext (hnext 0) rfl) hyields, hlast⟩

lemma Stands.yields {source : List Char} (h : l.Stands source) (hyields : l.Yields tokens after) :
    after.Stands source := by
  induction hyields with
  | nil => exact h
  | cons hnext _ ih =>
    apply ih
    have hstands := h.next?.1
    rwa [hnext] at hstands

lemma dialect_of_yields (h : l.Yields tokens after) : after.dialect = l.dialect := by
  induction h with
  | nil => rfl
  | cons hnext _ ih => exact ih.trans (readable_of_next? hnext).2

/-- Between two tokens that follow one another stand the ends of rules that the gap between them calls for. -/
lemma Stands.gapBetween {source : List Char} (h : l.Stands source)
    (hline : l.dialect.lineOriented = true) (hyields : l.Yields (first :: (ends ++ [second])) after)
    (hends : ∀ last ∈ ends, last.kind = .ruleTerminator) (hfirst : first.kind ≠ .ruleTerminator)
    (hsecond : second.kind ≠ .ruleTerminator) (hfirst' : first.lexeme ≠ .endOfInput)
    (hsecond' : second.lexeme ≠ .endOfInput) :
    ∃ before word gap text, l.dialect.GapBetween source first second before word gap text ∧
      ends = (if l.dialect.alternative <+: text then none else firstBreak? (before ++ word) gap).toList.map
        (⟨.ruleTerminator, ·⟩) := by
  obtain ⟨next, hnext, hmore⟩ := yields_cons_iff.mp hyields
  obtain ⟨before, word, hsource, hposition, hscan, hend, huncut⟩ := h.word hnext hfirst hfirst'
  obtain ⟨hdialect, _, _⟩ := next?_eq_ok hnext hfirst'
  have hopen : next.ruleOpen = true := by
    have hreads := l.reads_read
    rw [(read_of_next? hnext).1] at hreads
    exact ((hreads.ruleOpen hline hfirst').resolve_left fun hclosed => hfirst hclosed.1).2
  obtain ⟨gap, text, hrest, hgap, hplace, hword, hlast⟩ :=
    hmore.ends_eq (hdialect ▸ h.unbroken) (hdialect ▸ hline) hopen hend huncut hends hsecond hsecond'
  rw [hdialect] at hgap hword hlast
  rw [hrest] at hsource hscan
  exact ⟨before, word, gap, text, ⟨hsource, hposition, hscan, hgap, hplace, hword⟩, hlast⟩

end Lexer

namespace Dialect

variable {d : Dialect} {text : List Char} {n : ℕ}

lemma unbroken_of_all (h : (d.delimiters.all fun text => text.all (!isLineBreak ·)) = true) :
    d.Unbroken := by
  simpa [Unbroken] using h

lemma unbroken_bnf : bnf.Unbroken :=
  unbroken_of_all (by decide)

lemma mem_keywords_alternative_iff {word : List Char} :
    (.alternativeSeparator, word) ∈ d.keywords ↔ word = d.alternative := by
  simp only [keywords, List.append_assoc, List.mem_append, List.mem_cons, List.not_mem_nil, or_false]
  constructor
  · rintro (h | (h | h) | h | h)
    · split at h <;> simp_all
    · cases h
    · exact (Prod.mk.inj h).2
    · split at h <;> simp_all
    · split at h <;> simp_all
  · rintro rfl
    exact .inr (.inl (.inr rfl))

/-- An alternative goes on where its separator is scanned. -/
lemma ToldApart.alternative_prefix_iff (hd : d.ToldApart) {lexeme : Lexeme}
    (h : d.scan text = .ok (lexeme, n)) : d.alternative <+: text ↔ lexeme = .alternativeSeparator := by
  have hmem := mem_keywords_alternative_iff.mpr (rfl : d.alternative = _)
  cases text with
  | nil =>
    cases h
    simp [hd.delimited _ hmem]
  | cons first text =>
    constructor
    · intro hprefix
      have hkeyword := hd.keyword?_eq_some_iff.mpr ⟨_, hmem, hprefix, rfl, rfl⟩
      cases h.symm.trans (scan_cons_eq_ok_iff.mpr (.inl hkeyword))
      rfl
    · rintro rfl
      rcases scan_cons_eq_ok_iff.mp h with hkeyword | ⟨_, hother⟩
      · obtain ⟨⟨lexeme, word⟩, hword, hprefix, rfl, _⟩ := hd.keyword?_eq_some_iff.mp hkeyword
        rwa [mem_keywords_alternative_iff.mp hword] at hprefix
      · rcases hother with ⟨_, hscan⟩ | ⟨_, _, _, hscan⟩ | ⟨_, _, hscan⟩
        · obtain ⟨_, _, hliteral⟩ := scanLiteral_eq_ok_iff.mp hscan
          cases hliteral
        · obtain ⟨_, _, _, _, _, _, _, hname, _⟩ := scanBracketed_eq_ok_iff.mp hscan
          cases hname
        · unfold scanBare at hscan
          split at hscan
          · dsimp only at hscan
            split at hscan
            · cases hscan
            · split at hscan <;> cases hscan
          · cases hscan

/-- The ends of rules that a gap calls for, told by the kind of the token after it. -/
lemma ToldApart.ends_eq (hd : d.ToldApart) {source before word gap : List Char} {first second : Token}
    (h : d.GapBetween source first second before word gap text) :
    (if d.alternative <+: text then none else firstBreak? (before ++ word) gap).toList.map
        (⟨.ruleTerminator, ·⟩) =
      if gap.any isLineBreak ∧ second.kind ≠ .alternativeSeparator then
        [Token.mk .ruleTerminator
          (.afterText (before ++ word ++ gap.takeWhile (!isLineBreak ·)))]
      else [] := by
  obtain ⟨n, hscan⟩ := h.second_scan
  have halternative := hd.alternative_prefix_iff hscan
  by_cases hsecond : second.lexeme = .alternativeSeparator
  · rw [if_pos (halternative.mpr hsecond), if_neg (by simp [Token.kind, hsecond, Lexeme.kind])]
    rfl
  · have hkind : second.kind ≠ .alternativeSeparator :=
      fun hkind => hsecond (Lexeme.eq_of_kind_eq hkind rfl)
    rw [if_neg (mt halternative.mp hsecond), firstBreak?_eq]
    simp [hkind]

end Dialect

/-- In line oriented source without errors the tokens are rules with one end after each, and then the input
ends. Between two tokens that are scanned one after the other there is an end of a rule, and only one, if and
only if there is a line break between them and the second is not the separator of alternatives; it is where
the first line break is. -/
theorem Lexer.exists_exhausts_endsRules (source : List Char) :
    ∃ tokens last, (ofSource .bnf source).Exhausts tokens last ∧
      ((∀ error, last ≠ .error error) →
        EndsRules (tokens.map Token.kind) ∧ ∃ position, last = .ok ⟨.endOfInput, position⟩) ∧
      ∀ earlier first ends second later, tokens = earlier ++ first :: (ends ++ second :: later) →
        first.kind ≠ .ruleTerminator → (∀ token ∈ ends, token.kind = .ruleTerminator) →
        second.kind ≠ .ruleTerminator →
          ∃ before word gap text, Dialect.bnf.GapBetween source first second before word gap text ∧
            ends =
              if gap.any isLineBreak ∧ second.kind ≠ .alternativeSeparator then
                [⟨.ruleTerminator,
                  .afterText (before ++ word ++ gap.takeWhile (!isLineBreak ·))⟩]
              else [] := by
  have hline : (ofSource .bnf source).dialect.lineOriented = true := rfl
  have hd : Dialect.bnf.Tangible := by constructor <;> decide
  obtain ⟨tokens, last, _, rest, hexhausts, _, _, _, hlast⟩ := exists_exhausts_ofSource hd source
  obtain ⟨after, hyields, hend⟩ := hexhausts.yields
  refine ⟨tokens, last, hexhausts, ?_, ?_⟩
  · intro herror
    cases hlast with
    | error => exact absurd rfl (herror _)
    | @endOfInput position =>
      have hread := (read_of_next? (Prod.ext hend rfl)).1
      have hclosed := ruleOpen_of_endOfInput (dialect_of_yields hyields ▸ hline) hread rfl
      exact ⟨(hyields.endsRules hline hclosed hexhausts.ne_endOfInput).1 rfl, position, rfl⟩
  · rintro earlier first ends second later rfl hfirst hends hsecond
    obtain ⟨l, hearlier, hlater⟩ := yields_append_iff.mp hyields
    have hdialect : l.dialect = .bnf := dialect_of_yields hearlier
    have hstands := (stands_ofSource Dialect.unbroken_bnf source).yields hearlier
    have hne := hexhausts.ne_endOfInput
    have hsplit : first :: (ends ++ second :: later) = first :: (ends ++ [second]) ++ later := by simp
    rw [hsplit] at hlater
    obtain ⟨_, hpair, _⟩ := yields_append_iff.mp hlater
    obtain ⟨before, word, gap, text, hgap, hends⟩ := hstands.gapBetween (hdialect ▸ hline) hpair hends
      hfirst hsecond (hne first (by simp)) (hne second (by simp))
    rw [hdialect] at hgap hends
    exact ⟨before, word, gap, text, hgap, hends.trans (Dialect.toldApart_bnf.ends_eq hgap)⟩

end TypedGrammar
