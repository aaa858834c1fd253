import TypedGrammar.Proofs.YieldedTokens

/-!
# Spans of tokens

Where no delimiter is empty a lexer yields finitely many tokens, and what it yields covers its source: the
tokens that are scanned lie one after another in it, and only white space and comments lie between them.
-/

namespace TypedGrammar

namespace Dialect

/-- No delimiter is empty, except perhaps the marker of the empty part, and neither is what begins
comments. -/
structure Tangible (d : Dialect) : Prop where
  assign : d.assign ≠ []
  alternative : d.alternative ≠ []
  concatenation : d.concatenation ≠ some []
  terminator : d.terminator ≠ .symbol []
  comment : d.comment ≠ some []

/-- The text is white space and comments. A comment ends where a line does or where nothing is `after` the
text. -/
inductive Blank (d : Dialect) (after : List Char) : List Char → Prop
  | nil : d.Blank after []
  | space {c : Char} {gap : List Char} (hc : Unicode.isWhiteSpace c = true)
      (hgap : d.Blank after gap) : d.Blank after (c :: gap)
  | comment {mark body gap : List Char} (hmark : d.comment = some mark)
      (hbody : ∀ c ∈ body, isLineBreak c = false)
      (hend : ∀ c ∈ (gap ++ after).head?, isLineBreak c = true)
      (hgap : d.Blank after gap) : d.Blank after (mark ++ body ++ gap)

/-- From byte `n` on, the text is blank but for the words of the tokens, up to byte `m` where the rest
begins. Each token is what is scanned where its word is, and says so by its position. -/
inductive Lays (d : Dialect) : ℕ → List Char → List Token → ℕ → List Char → Prop
  | nil {n : ℕ} {gap rest : List Char} (hgap : d.Blank rest gap) :
      d.Lays n (gap ++ rest) [] (n + byteLength gap) rest
  | cons {n m : ℕ} {gap word text rest : List Char} {token : Token} {tokens : List Token}
      (hgap : d.Blank (word ++ text) gap) (hword : word ≠ [])
      (hposition : token.position.offset = n + byteLength gap)
      (hscan : d.scan (word ++ text) = .ok (token.lexeme, word.length))
      (hrest : d.Lays (n + byteLength gap + byteLength word) text tokens m rest) :
      d.Lays n (gap ++ (word ++ text)) (token :: tokens) m rest

/-- Why reading ends before the rest of the source, which begins at byte `m`: nothing is left, or what is
left begins with an error. -/
inductive Finishes (d : Dialect) (m : ℕ) : List Char → Except LexError Token → Prop
  | endOfInput {position : Position} (hposition : position.offset = m) :
      d.Finishes m [] (.ok ⟨.endOfInput, position⟩)
  | error {rest : List Char} {error : LexError} {n : ℕ}
      (hscan : d.scan rest = .error (error.kind, n))
      (hposition : error.position.offset = m + byteLength (rest.take n)) :
      d.Finishes m rest (.error error)

variable {d : Dialect} {text gap gap' rest : List Char} {n m k : ℕ} {tokens : List Token}

lemma Tangible.delimited (hd : d.Tangible) : d.Delimited := by
  obtain ⟨hassign, halternative, hconcatenation, hterminator, _⟩ := hd
  intro keyword hkeyword
  simp only [keywords, List.append_assoc, List.mem_append, List.mem_cons, List.not_mem_nil,
    or_false] at hkeyword
  rcases hkeyword with hkeyword | (rfl | rfl) | hkeyword | hkeyword
  · split at hkeyword <;> simp_all
  · exact hassign
  · exact halternative
  · split at hkeyword <;> simp_all
  · split at hkeyword
    · cases hkeyword
    · rename_i hepsilon
      rw [List.mem_singleton.mp hkeyword]
      intro hnil
      rw [show d.epsilon = [] from hnil] at hepsilon
      exact hepsilon rfl

/-! ### Blank text -/

lemma blank_of_isWhiteSpace (h : ∀ c ∈ gap, Unicode.isWhiteSpace c = true) : d.Blank rest gap := by
  induction gap with
  | nil => exact .nil
  | cons c gap ih =>
    obtain ⟨hc, hgap⟩ := List.forall_mem_cons.mp h
    exact .space hc (ih hgap)

lemma Blank.append (h : d.Blank (gap' ++ rest) gap) (h' : d.Blank rest gap') :
    d.Blank rest (gap ++ gap') := by
  induction h with
  | nil => exact h'
  | space hc _ ih => exact .space hc ih
  | comment hmark hbody hend _ ih =>
    rw [List.append_assoc]
    rw [← List.append_assoc] at hend
    exact .comment hmark hbody hend ih

/-- A comment goes up to the end of its line. -/
lemma blank_take_commentLength (d : Dialect) (text : List Char) :
    d.Blank (text.drop (d.commentLength text)) (text.take (d.commentLength text)) := by
  unfold commentLength
  split
  · rename_i mark hmark
    split
    · rename_i h
      obtain ⟨after, rfl⟩ := List.isPrefixOf_iff_prefix.mp h.2
      rw [List.drop_left, List.take_length_add_append, List.drop_length_add_append, take_takeWhile,
        drop_takeWhile, ← List.append_nil (mark ++ _)]
      refine .comment hmark (fun c hc => ?_) (fun c hc => ?_) .nil
      · simpa using List.mem_takeWhile_imp hc
      · have hhead := List.head?_dropWhile_not (!isLineBreak ·) after
        rw [List.nil_append] at hc
        rw [Option.mem_def.mp hc] at hhead
        simpa using hhead
    · exact .nil
  · exact .nil

lemma blank_of_trivia? {t : Trivia} (h : d.trivia? text = some (t, n)) :
    d.Blank (text.drop n) (text.take n) := by
  have hwhite {p : Char → Bool} (hp : ∀ c, p c = true → Unicode.isWhiteSpace c = true) :
      d.Blank (text.drop (text.takeWhile p).length) (text.take (text.takeWhile p).length) := by
    apply blank_of_isWhiteSpace
    intro c hc
    rw [take_takeWhile] at hc
    exact hp c (List.mem_takeWhile_imp hc)
  unfold trivia? at h
  split at h
  · cases h
    exact hwhite fun c hc => (Bool.and_eq_true_iff.mp hc).1
  · split at h
    · cases h
      exact d.blank_take_commentLength text
    · split at h
      · cases h
        unfold lineBreakLength
        split
        · exact hwhite fun c => isWhiteSpace_of_isLineBreak
        · exact .nil
      · cases h

/-- What is skipped is blank. -/
lemma blank_of_skipTrivia {crossed crossed' : Option Position} {cursor cursor' : Cursor}
    (h : d.skipTrivia crossed cursor = (crossed', cursor')) :
    ∃ gap, cursor.rest = gap ++ cursor'.rest ∧ d.Blank cursor'.rest gap ∧
      cursor'.position.offset = cursor.position.offset + byteLength gap := by
  fun_induction skipTrivia d crossed cursor with
  | case1 crossed cursor htrivia =>
    cases h
    exact ⟨[], rfl, .nil, rfl⟩
  | case2 crossed cursor t n htrivia ih =>
    obtain ⟨gap, hrest, hgap, hposition⟩ := ih h
    have hblank := blank_of_trivia? htrivia
    rw [Cursor.rest_skip] at hrest
    rw [hrest] at hblank
    refine ⟨cursor.rest.take n ++ gap, ?_, hblank.append hgap, ?_⟩
    · rw [List.append_assoc, ← hrest, List.take_append_drop]
    · rw [hposition, Cursor.skip, Position.advance_offset, byteLength_append, Nat.add_assoc]

/-- Blank text can stand before what is laid out. -/
lemma Lays.blank_append (h : d.Lays (n + byteLength gap) text tokens m rest)
    (hgap : d.Blank text gap) : d.Lays n (gap ++ text) tokens m rest := by
  generalize hn : n + byteLength gap = start at h
  cases h with
  | @nil _ gap' _ hgap' =>
    rw [← hn, Nat.add_assoc, ← byteLength_append, ← List.append_assoc]
    exact .nil (hgap.append hgap')
  | @cons _ _ gap' word text _ _ _ hgap' hword hposition hscan hrest =>
    rw [← hn, Nat.add_assoc n, ← byteLength_append] at hposition hrest
    rw [← List.append_assoc]
    exact .cons (hgap.append hgap') hword hposition hscan hrest

/-- A token that is scanned lies before what is laid out after it. -/
lemma Lays.of_scan {lexeme : Lexeme} {position : Position} (hscan : d.scan text = .ok (lexeme, k))
    (hpos : 0 < k) (hle : k ≤ text.length)
    (h : d.Lays (position.advance (text.take k)).offset (text.drop k) tokens m rest) :
    d.Lays position.offset text (⟨lexeme, position⟩ :: tokens) m rest := by
  have hlength := List.length_take_of_le hle
  have hword : text.take k ≠ [] := by
    rw [← List.length_pos_iff, hlength]
    exact hpos
  have htext := List.take_append_drop k text
  rw [Position.advance_offset] at h
  have hlays : d.Lays position.offset ([] ++ (text.take k ++ text.drop k))
      (⟨lexeme, position⟩ :: tokens) m rest := by
    refine .cons .nil hword rfl ?_ h
    rwa [htext, hlength]
  rwa [List.nil_append, htext] at hlays

/-- What is laid out ends as far on as it is long. -/
lemma Lays.byteLength_eq (h : d.Lays n text tokens m rest) :
    n + byteLength text = m + byteLength rest := by
  induction h with
  | nil => rw [byteLength_append, Nat.add_assoc]
  | cons _ _ _ _ _ ih =>
    rw [← ih, byteLength_append, byteLength_append]
    omega

end Dialect

namespace Lexer

/-- The tokens and then the last item are all that the lexer yields. It is left unchanged from then on. -/
structure Exhausts (l : Lexer) (tokens : List Token) (last : Except LexError Token) : Prop where
  next?_after : ∀ i, (l.after i).next?.1 = (tokens.map Except.ok ++ [last])[i]?
  after_eq : ∀ i, tokens.length < i → l.after i = l.after (tokens.length + 1)
  ne_endOfInput : ∀ token ∈ tokens, token.lexeme ≠ .endOfInput

variable {l next : Lexer} {token : Token} {tokens : List Token} {last : Except LexError Token}

lemma after_of_stopped (hl : l.stopped = true) (i : ℕ) : l.after i = l := by
  induction i with
  | zero => rfl
  | succ i ih => rw [after, next?, if_pos hl, ih]

lemma exhausts_of_stopped (hnext : l.next? = (some last, next)) (hstopped : next.stopped = true) :
    l.Exhausts [] last where
  next?_after i := by
    cases i with
    | zero => rw [after, hnext]; rfl
    | succ i =>
      rw [after, hnext, after_of_stopped hstopped, next?, if_pos hstopped]
      rfl
  after_eq i hi := by
    obtain ⟨i, rfl⟩ := Nat.exists_eq_add_one_of_ne_zero (Nat.ne_of_gt hi)
    rw [after, hnext, after_of_stopped hstopped]
    exact congrArg Prod.snd hnext.symm
  ne_endOfInput := by simp

lemma Exhausts.cons (hnext : l.next? = (some (.ok token), next)) (htoken : token.lexeme ≠ .endOfInput)
    (h : next.Exhausts tokens last) : l.Exhausts (token :: tokens) last where
  next?_after i := by
    cases i with
    | zero => rw [after, hnext]; rfl
    | succ i =>
      rw [after, hnext, h.next?_after]
      rfl
  after_eq i hi := by
    obtain ⟨i, rfl⟩ := Nat.exists_eq_add_one_of_ne_zero (Nat.ne_zero_of_lt hi)
    rw [after, hnext, after, hnext]
    exact h.after_eq i (Nat.lt_of_succ_lt_succ hi)
  ne_endOfInput := List.forall_mem_cons.mpr ⟨htoken, h.ne_endOfInput⟩

lemma lineOriented_of_ruleEnd? {crossed : Option Position} {cursor : Cursor} {position : Position}
    (hskip : l.dialect.skipTrivia none l.cursor = (crossed, cursor))
    (hrule : l.ruleEnd? crossed cursor = some position) : l.dialect.lineOriented = true := by
  unfold ruleEnd? at hrule
  split at hrule
  · split at hrule
    · rename_i hcrossed
      have hline : (l.dialect.skipTrivia none l.cursor).1.isSome → l.dialect.lineOriented = true :=
        l.dialect.lineOriented_of_skipTrivia l.cursor (by simp)
      rw [hskip] at hline
      exact hline (Bool.and_eq_true_iff.mp hcrossed).1
    · split at hrule
      · rename_i hend
        exact (Bool.and_eq_true_iff.mp hend).2
      · cases hrule
  · cases hrule

/-- What a lexer yields in all, and how the text from its cursor on is laid out. -/
def Covers (l : Lexer) (tokens : List Token) (last : Except LexError Token) : Prop :=
  l.Exhausts tokens last ∧ tokens.length ≤ l.size ∧ ∃ m rest,
    l.dialect.Lays l.cursor.position.offset l.cursor.rest
      (tokens.filter (·.lexeme.isScanned l.dialect)) m rest ∧ l.dialect.Finishes m rest last

lemma covers_of_finishes {crossed : Option Position} {cursor : Cursor}
    (hnext : l.next? = (some last, { l with cursor := cursor, stopped := true }))
    (hskip : l.dialect.skipTrivia none l.cursor = (crossed, cursor))
    (hlast : l.dialect.Finishes cursor.position.offset cursor.rest last) : l.Covers [] last := by
  obtain ⟨gap, hrest, hgap, hposition⟩ := Dialect.blank_of_skipTrivia hskip
  refine ⟨exhausts_of_stopped hnext rfl, Nat.zero_le _, _, _, ?_, hlast⟩
  rw [hrest, hposition]
  exact .nil hgap

/-- A token that is read lies before what is laid out after it, and the end of a rule that a line break
ends takes no room. -/
lemma Reads.lays (hreads : l.Reads (.ok token) next) (htoken : token.lexeme ≠ .endOfInput)
    (hd : l.dialect.Delimited) {m : ℕ} {rest : List Char}
    (h : l.dialect.Lays next.cursor.position.offset next.cursor.rest
      (tokens.filter (·.lexeme.isScanned l.dialect)) m rest) :
    l.dialect.Lays l.cursor.position.offset l.cursor.rest
      ((token :: tokens).filter (·.lexeme.isScanned l.dialect)) m rest := by
  cases hreads with
  | ruleEnd hskip hrule =>
    obtain ⟨gap, hbefore, hgap, hposition⟩ := Dialect.blank_of_skipTrivia hskip
    have hline := lineOriented_of_ruleEnd? hskip hrule
    rw [List.filter_cons_of_neg (by simp [Lexeme.isScanned, hline]), hbefore]
    dsimp only at h
    rw [hposition] at h
    exact h.blank_append hgap
  | endOfInput => exact absurd rfl htoken
  | token hskip hrest hscan =>
    obtain ⟨gap, hbefore, hgap, hposition⟩ := Dialect.blank_of_skipTrivia hskip
    have hscanned := Dialect.isScanned_of_scan hscan
    have hpos := Dialect.pos_of_scan hd hscan
    have htrivia := l.dialect.trivia?_skipTrivia none l.cursor
    rw [hskip] at htrivia
    have hextent := (Dialect.extent_scan htrivia).1
    rw [← hrest] at hscan
    dsimp only at hextent
    rw [hscan] at hextent
    rw [List.filter_cons_of_pos (by exact hscanned), hbefore]
    refine Dialect.Lays.blank_append ?_ hgap
    rw [← hposition]
    exact .of_scan hscan hpos hextent h

lemma Covers.cons (h : next.Covers tokens last) (hread : l.read = (.ok token, next))
    (hl : l.stopped = false) (htoken : token.lexeme ≠ .endOfInput) (hd : l.dialect.Delimited) :
    l.Covers (token :: tokens) last := by
  obtain ⟨hexhausts, hlength, m, rest, hlays, hlast⟩ := h
  obtain ⟨hdialect, _, hsize⟩ := read_eq_ok hread htoken
  have hnext := next?_of_not_stopped hl
  have hreads := l.reads_read
  rw [hread] at hnext hreads
  rw [hdialect] at hlays hlast
  exact ⟨hexhausts.cons hnext htoken, Nat.lt_of_le_of_lt hlength (hsize hd), m, rest,
    hreads.lays htoken hd hlays, hlast⟩

/-- Each token but the last leaves less to read. -/
theorem exists_covers (hd : l.dialect.Delimited) (hl : l.stopped = false) :
    ∃ tokens last, l.Covers tokens last := by
  induction hn : l.size using Nat.strong_induction_on generalizing l with
  | _ n ih =>
  subst hn
  have hnext := next?_of_not_stopped hl
  have hreads := l.reads_read
  have hgoes {token : Token} {next : Lexer} (hread : l.read = (.ok token, next))
      (htoken : token.lexeme ≠ .endOfInput) : ∃ tokens last, l.Covers tokens last := by
    obtain ⟨hdialect, hstopped, hsize⟩ := read_eq_ok hread htoken
    obtain ⟨tokens, last, hcovers⟩ := ih _ (hsize hd) (hdialect ▸ hd) (hstopped.trans hl) rfl
    exact ⟨token :: tokens, last, hcovers.cons hread hl htoken hd⟩
  rcases hread : l.read with ⟨result, next⟩
  rw [hread] at hnext hreads
  cases hreads with
  | ruleEnd hskip hrule => exact hgoes hread (by simp)
  | endOfInput hskip hrest =>
    refine ⟨[], _, covers_of_finishes hnext hskip ?_⟩
    rw [hrest]
    exact .endOfInput rfl
  | error hskip hrest hscan =>
    refine ⟨[], _, covers_of_finishes hnext hskip ?_⟩
    rw [← hrest] at hscan
    exact .error hscan (Position.advance_offset _ _)
  | token hskip hrest hscan =>
    refine hgoes hread ?_
    rintro rfl
    cases Dialect.isScanned_of_scan hscan

/-- A lexer yields at most two tokens for each character of its source and then one item more, which alone
is the end of the input or an error. The source is blank but for the words of the tokens that are scanned,
up to the end or to what is in error. -/
theorem exists_exhausts_ofSource {d : Dialect} (hd : d.Tangible) (source : List Char) :
    ∃ tokens last m rest, (ofSource d source).Exhausts tokens last ∧
      tokens.length + 1 ≤ 2 * source.length + 1 ∧
      d.Lays 0 source (tokens.filter (·.lexeme.isScanned d)) m rest ∧
      m + byteLength rest = byteLength source ∧ d.Finishes m rest last := by
  obtain ⟨tokens, last, hexhausts, hlength, m, rest, hlays, hlast⟩ :=
    exists_covers (l := ofSource d source) hd.delimited rfl
  have hbytes := hlays.byteLength_eq
  rw [show (ofSource d source).cursor = ⟨source, .start⟩ from rfl] at hbytes hlays
  refine ⟨tokens, last, m, rest, hexhausts, Nat.succ_le_succ hlength, hlays, ?_, hlast⟩
  rw [← hbytes, Position.start, Nat.zero_add]

theorem exists_exhausts_comment : Dialect.bnf.Tangible ∧
    ∃ tokens last m rest, (ofSource .bnf "<a> ::= 'b' # c".toList).Exhausts tokens last ∧
      tokens.length + 1 ≤ 2 * "<a> ::= 'b' # c".toList.length + 1 ∧
      Dialect.bnf.Lays 0 "<a> ::= 'b' # c".toList (tokens.filter (·.lexeme.isScanned .bnf)) m rest ∧
      m + byteLength rest = byteLength "<a> ::= 'b' # c".toList ∧
      Dialect.bnf.Finishes m rest last := by
  have hd : Dialect.bnf.Tangible := by
    constructor <;> decide
  exact ⟨hd, exists_exhausts_ofSource hd _⟩

end Lexer

end TypedGrammar
