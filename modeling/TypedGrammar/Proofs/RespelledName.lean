import TypedGrammar.Proofs.InsertedLayout
import TypedGrammar.Proofs.SpelledName

/-!
# Respelled names

A token may be written in another way that is scanned as the same token. A lexer that meets it
there yields what it would yield, only at other places, and the same grammar is read. This holds of
a name in brackets that is spelled with other separators.
-/

namespace TypedGrammar

namespace Dialect

/-- Two ways to write a token, both of which begin with the same character. -/
structure SameToken (d : Dialect) (first : Char) (inner inner' : List Char) (lexeme : Lexeme) : Prop where
  lexeme_ne : lexeme ≠ .endOfInput
  trivia? : ∀ text, d.trivia? (first :: text) = none
  scan : ∀ after, d.scan (first :: (inner ++ after)) = .ok (lexeme, inner.length + 1)
  scan' : ∀ after, d.scan (first :: (inner' ++ after)) = .ok (lexeme, inner'.length + 1)

end Dialect

namespace Lexer

variable {d : Dialect} {l l' : Lexer} {inner inner' after before gap rest tail tail' : List Char}
  {first : Char} {lexeme : Lexeme} {name : Name} {position : Position} {n : ℕ}

/-! ### Calls -/

/-- Blank text is skipped as trivia. -/
lemma exists_skipsOver_of_blank (hd : l.dialect.PlainMark) (hblank : l.dialect.Blank rest gap)
    (htrivia : l.dialect.trivia? rest = none) (hrest : l.cursor.rest = gap ++ rest) :
    ∃ crossed cursor, l.SkipsOver gap crossed cursor ∧ cursor.rest = rest := by
  obtain ⟨hcursor, _⟩ := Dialect.skipTrivia_of_blank hd hblank htrivia hrest
  rcases hskip : l.dialect.skipTrivia none l.cursor with ⟨crossed, cursor⟩
  rw [hskip] at hcursor
  dsimp only at hcursor
  subst hcursor
  exact ⟨crossed, cursor, ⟨hskip, hrest, hblank, htrivia⟩, rfl⟩

/-- Where the token comes next, it is read and the same text is left, unless a rule ends before it. -/
lemma Departs.read_zero
    (h : Departs (gap ++ first :: (inner ++ after)) (gap ++ first :: (inner' ++ after)) 0 l l')
    (hd : l.dialect.FreeLayout) (hblank : l.dialect.Blank (first :: (inner ++ after)) gap)
    (htoken : l.dialect.SameToken first inner inner' lexeme) :
    relocate .forget l.read.1 = relocate .forget l'.read.1 ∧ (l.read.2.Agrees l'.read.2 ∨
      Departs (first :: (inner ++ after)) (first :: (inner' ++ after)) 0 l.read.2 l'.read.2) := by
  obtain ⟨hdialect, hopen, hstopped, hstopped', hafter, ahead, hrest, hrest'⟩ := h
  change l.stopped = false at hstopped
  change l.cursor.rest = _ at hafter
  obtain rfl : ahead = [] := List.self_eq_append_left.mp (hafter.symm.trans hrest)
  rw [List.nil_append] at hrest'
  obtain ⟨crossed, cursor, hskips, hcursor⟩ :=
    l.exists_skipsOver_of_blank hd.plainMark hblank (htoken.trivia? _) hafter
  have hhead : (first :: (inner' ++ after)).head? = cursor.rest.head? := by rw [hcursor]; rfl
  rw [← hcursor] at hblank
  obtain ⟨crossed', cursor', hskips', hcursor', hrule⟩ := hskips.exists_alike hd hdialect hopen
    hrest' (hblank.congr hhead) hhead rfl
  cases hend : l.ruleEnd? crossed cursor with
  | some position =>
    rw [hend] at hrule
    obtain ⟨position', hend'⟩ := Option.isSome_iff_exists.mp hrule
    rw [read_of_ruleEnd hskips.skipTrivia hend, read_of_ruleEnd hskips'.skipTrivia hend']
    exact ⟨rfl, .inr ⟨hdialect, rfl, hstopped, hstopped', hcursor, [], hcursor, hcursor'⟩⟩
  | none =>
    rw [hend] at hrule
    rw [read_of_scan hskips.skipTrivia hend (by rw [hcursor, htoken.scan]) htoken.lexeme_ne,
      read_of_scan hskips'.skipTrivia (by simpa using hrule)
        (by rw [hdialect, hcursor', htoken.scan']) htoken.lexeme_ne]
    refine ⟨rfl, .inl ⟨hdialect, rfl, hstopped'.trans hstopped.symm, ?_⟩⟩
    rw [Cursor.rest_skip, Cursor.rest_skip, hcursor, hcursor', List.drop_succ_cons,
      List.drop_succ_cons, List.drop_left, List.drop_left]

/-- The second lexer yields what the first one does, before the token and after it. -/
theorem Departs.matches
    (h : Departs (gap ++ first :: (inner ++ after)) (gap ++ first :: (inner' ++ after)) n l l')
    (hd : l.dialect.FreeLayout) (hblank : l.dialect.Blank (first :: (inner ++ after)) gap)
    (htoken : l.dialect.SameToken first inner inner' lexeme) : Matches .forget l l' := by
  let Related (k k' : Lexer) : Prop := ∃ m gap, l.dialect.Blank (first :: (inner ++ after)) gap ∧
    Departs (gap ++ first :: (inner ++ after)) (gap ++ first :: (inner' ++ after)) m k k'
  refine matches_of_agrees (R := Related) hd ?_ ⟨n, gap, hblank, h⟩
  rintro k k' ⟨m, gap, hblank, hdeparts⟩ hdialect
  refine ⟨not_stopped_of_after hdeparts.not_stopped, hdeparts.not_stopped', ?_⟩
  cases m with
  | zero =>
    refine (hdeparts.read_zero (hdialect ▸ hd) (hdialect ▸ hblank) (hdialect ▸ htoken)).imp_right ?_
    exact Or.imp_right fun h => ⟨0, [], .nil, h⟩
  | succ m =>
    have hhead : (gap ++ first :: (inner' ++ after)).head? = (gap ++ first :: (inner ++ after)).head? := by
      rw [List.head?_append, List.head?_append]
      rfl
    exact (hdeparts.read (hdialect ▸ hd) hhead).imp_right fun h => .inr ⟨m, gap, hblank, h⟩

/-! ### Sources -/

/-- A name is yielded with the position behind the trivia before it. -/
lemma SkipsOver.position_eq {crossed : Option Position} {cursor : Cursor}
    (h : l.SkipsOver gap crossed cursor) (hread : l.read.1 = .ok ⟨.identifier name, position⟩) :
    position = cursor.position := by
  have hreads := l.reads_read
  rw [hread] at hreads
  generalize l.read.2 = next at hreads
  cases hreads with
  | token hskip =>
    cases h.skipTrivia.symm.trans hskip
    rfl

lemma dialect_after (l : Lexer) (n : ℕ) : (l.after n).dialect = l.dialect := by
  induction n generalizing l with
  | zero => rfl
  | succ n ih => exact (ih l.next?.2).trans l.dialect_next?

/-- Where a lexer yields a name after some calls, the source can go on otherwise. -/
lemma departs_of_next? (hd : d.FreeLayout)
    (hnext : ((ofSource d (before ++ tail)).after n).next?.1 = some (.ok ⟨.identifier name, position⟩))
    (hoffset : position.offset = byteLength before) : ∃ gap, d.Blank tail gap ∧
      Departs (gap ++ tail) (gap ++ tail') n (ofSource d (before ++ tail))
        (ofSource d (before ++ tail')) := by
  have hstands := (stands_ofSource hd.unbroken (before ++ tail)).after n
  have hdialect := (ofSource d (before ++ tail)).dialect_after n
  have hstopped : ((ofSource d (before ++ tail)).after n).stopped = false := by
    by_contra hstopped
    rw [next?, if_pos (by simpa using hstopped)] at hnext
    cases hnext
  rw [next?_of_not_stopped hstopped] at hnext
  generalize hk : (ofSource d (before ++ tail)).after n = k at hstands hdialect hstopped hnext
  obtain ⟨gap, crossed, cursor, hskips⟩ := k.exists_skipsOver
  obtain ⟨read, hread, _, _⟩ := hstands.cursor
  -- Both the cursor of the lexer and the one behind the trivia are at places of the source.
  have hnone : ∀ p ∈ (none : Option Position), p.IsIn (before ++ tail) := by simp
  have hcursor := (Dialect.isIn_skipTrivia hstands.unbroken hstands.cursor hnone).1
  rw [hskips.skipTrivia] at hcursor
  obtain ⟨read', hread', _, hposition⟩ := hcursor
  rw [hskips.position_eq (Option.some.inj hnext), hposition, Position.afterText] at hoffset
  obtain ⟨rfl, rfl⟩ := append_inj_of_byteLength hread' hoffset.symm
  rw [hskips.rest, ← List.append_assoc] at hread
  obtain rfl := List.append_cancel_right hread
  have hblank : d.Blank cursor.rest gap := by
    rw [← show k.dialect = d from hdialect]
    exact hskips.blank
  refine ⟨gap, hblank, rfl, rfl, by rw [hk, hstopped], rfl, by rw [hk, hskips.rest], read, ?_, ?_⟩
  · exact List.append_assoc read gap _
  · exact List.append_assoc read gap _

end Lexer

namespace Name

variable {pieces : List (List Char)} {s t inner : List Char} {closing : Char} {name : Name}

/-! ### Names in brackets -/

lemma scanBracketed_of_ofText? (h : ofText? inner = .ok name) (hclosing : isLineBreak closing = false)
    (hinner : closing ∉ inner) (after : List Char) :
    Dialect.scanBracketed closing (inner ++ closing :: after) = .ok (.identifier name, inner.length + 2) := by
  refine Dialect.scanBracketed_eq_ok_iff.mpr
    ⟨inner, after, name, rfl, hclosing, fun c hc => ⟨?_, ?_⟩, h, rfl, rfl⟩
  · exact ((exists_ofText?_iff inner).mp ⟨name, h⟩).1 c hc
  · rintro rfl
    exact hinner hc

lemma scan_bracketed_bnf (h : ofText? inner = .ok name) (hinner : '>' ∉ inner) (after : List Char) :
    Dialect.bnf.scan ('<' :: (inner ++ ['>'] ++ after)) =
      .ok (.identifier name, (inner ++ ['>']).length + 1) := by
  rw [List.append_assoc, List.singleton_append, List.length_append, Dialect.scan_cons_eq_ok_iff]
  refine .inr ⟨?_, .inr (.inl ⟨by decide, '>', rfl, scanBracketed_of_ofText? h (by decide) hinner after⟩)⟩
  rw [Dialect.keyword?_eq_none_iff, Dialect.keywords_bnf]
  simp

lemma sameToken_bnf (hs : ofText? s = .ok name) (ht : ofText? t = .ok name) (hclosing : '>' ∉ s)
    (hclosing' : '>' ∉ t) :
    Dialect.bnf.SameToken '<' (s ++ ['>']) (t ++ ['>']) (.identifier name) where
  lexeme_ne := by simp
  trivia? text := (Dialect.trivia?_cons_eq_none_iff Dialect.plainMark_bnf).mpr (by decide)
  scan := scan_bracketed_bnf hs hclosing
  scan' := scan_bracketed_bnf ht hclosing'

/-- A name that a lexer yields for the one spelling can be spelled in the other way. -/
lemma parse_respelled {before after : List Char} {position : Position} {n : ℕ}
    (hs : ofText? s = .ok name) (ht : ofText? t = .ok name) (hclosing : '>' ∉ s) (hclosing' : '>' ∉ t)
    (hnext : ((Lexer.ofSource .bnf (before ++ '<' :: (s ++ '>' :: after))).after n).next?.1 =
      some (.ok ⟨.identifier name, position⟩))
    (hoffset : position.offset = byteLength before) :
    (Grammar.parse .bnf (before ++ '<' :: (t ++ '>' :: after))).mapError (ParseError.relocate .forget) =
      (Grammar.parse .bnf (before ++ '<' :: (s ++ '>' :: after))).mapError
        (ParseError.relocate .forget) := by
  have hfree := Dialect.freeLayout_bnf
  have htail (spelling : List Char) :
      '<' :: (spelling ++ '>' :: after) = '<' :: (spelling ++ ['>'] ++ after) := by
    rw [List.append_assoc, List.singleton_append]
  rw [htail] at hnext
  rw [htail, htail]
  obtain ⟨gap, hblank, hdeparts⟩ := Lexer.departs_of_next? hfree hnext hoffset
  have hmatches := hdeparts.matches hfree hblank (sameToken_bnf hs ht hclosing hclosing')
  refine (Grammar.mapError_parse_congr ?_).symm
  exact Lexer.relocate_stream_of_matches hmatches hfree.toldApart.delimited
    hfree.toldApart.delimited rfl rfl

/-- Separators spell one name, however many stand between its pieces and whichever they are. Any other
spacing is taken for part of a word, so that another name is spelled. In brackets all spellings of a name are
scanned as that name, and a source that spells it otherwise is read as the same grammar. -/
theorem ofText?_respelled
    (hpieces : ∀ piece ∈ pieces, ∀ c ∈ piece, isSpacing c = false ∧ isLineBreak c = false)
    (hs : SpelledWith isSeparator pieces s) (ht : SpelledWith isSpacing pieces t) :
    (ofText? t = ofText? s ↔ ∀ c ∈ t, isSpacing c = true → isSeparator c = true) ∧
      ((∀ c ∈ t, isSpacing c = true → isSeparator c = true) → ∀ name, ofText? s = .ok name →
        (∀ closing, isLineBreak closing = false → closing ∉ s → closing ∉ t → ∀ after,
          Dialect.scanBracketed closing (s ++ closing :: after) =
              .ok (.identifier name, s.length + 2) ∧
            Dialect.scanBracketed closing (t ++ closing :: after) =
              .ok (.identifier name, t.length + 2)) ∧
        ('>' ∉ s → ∀ before after n position,
          let source := fun spelling => before ++ '<' :: (spelling ++ '>' :: after)
          ((Lexer.ofSource .bnf (source s)).after n).next?.1 =
              some (.ok ⟨.identifier name, position⟩) →
            position.offset = byteLength before →
              (Grammar.parse .bnf (source t)).mapError (ParseError.relocate .forget) =
                (Grammar.parse .bnf (source s)).mapError (ParseError.relocate .forget))) := by
  have hsame := ofText?_eq_iff hpieces hs ht
  refine ⟨hsame, fun hseparators name hname => ?_⟩
  have hname' : ofText? t = .ok name := (hsame.mpr hseparators).trans hname
  refine ⟨fun closing hclosing hs ht after => ⟨?_, ?_⟩, fun hclosing before after n position => ?_⟩
  · exact scanBracketed_of_ofText? hname hclosing hs after
  · exact scanBracketed_of_ofText? hname' hclosing ht after
  · intro source hnext hoffset
    have hclosing' : '>' ∉ t := by
      intro hmem
      rcases ht.mem hmem with ⟨piece, hpiece, hmem⟩ | hspacing
      · exact hclosing (hs.mem_of_mem_piece hpiece hmem)
      · cases hspacing
    exact parse_respelled hname hname' hclosing hclosing' hnext hoffset

lemma plain_of_all (h : (pieces.flatten.all fun c => !isSpacing c && !isLineBreak c) = true) :
    ∀ piece ∈ pieces, ∀ c ∈ piece, isSpacing c = false ∧ isLineBreak c = false := by
  intro piece hpiece c hc
  simpa using List.all_eq_true.mp h c (List.mem_flatten.mpr ⟨piece, hpiece, hc⟩)

theorem ofText?_respelled_nonZero :
    let pieces := ["non".toList, "zero".toList]
    let name : Name := ⟨[⟨"non".toList, by decide⟩, ⟨"zero".toList, by decide⟩], by simp⟩
    let source := fun spelling => "<digit> ::= ".toList ++ '<' :: (spelling ++ '>' :: "\n".toList)
    (∀ piece ∈ pieces, ∀ c ∈ piece, isSpacing c = false ∧ isLineBreak c = false) ∧
      SpelledWith isSeparator pieces "non zero".toList ∧
      SpelledWith isSpacing pieces "non_-\tzero".toList ∧
      ofText? "non_-\tzero".toList = .ok name ∧
      (Grammar.parse .bnf (source "non_-\tzero".toList)).mapError (ParseError.relocate .forget) =
        (Grammar.parse .bnf (source "non zero".toList)).mapError (ParseError.relocate .forget) := by
  intro pieces name source
  have hpieces : ∀ piece ∈ pieces, ∀ c ∈ piece, isSpacing c = false ∧ isLineBreak c = false :=
    plain_of_all (by decide)
  have hs : SpelledWith isSeparator pieces "non zero".toList :=
    .cons "non".toList (List.cons_ne_nil ' ' []) (List.all_eq_true.mp (by decide)) (.single "zero".toList)
  have ht : SpelledWith isSpacing pieces "non_-\tzero".toList :=
    .cons "non".toList (List.cons_ne_nil '_' ['-', '\t']) (List.all_eq_true.mp (by decide)) (.single "zero".toList)
  have hname : ofText? "non zero".toList = .ok name := by decide +kernel
  have hnext : ((Lexer.ofSource .bnf (source "non zero".toList)).after 2).next?.1 =
      some (.ok ⟨.identifier name, ⟨12, 1, 13⟩⟩) := by decide +kernel
  obtain ⟨hsame, hrespelled⟩ := ofText?_respelled hpieces hs ht
  have hseparators : ∀ c ∈ "non_-\tzero".toList, isSpacing c = true → isSeparator c = true := by
    have hall : ("non_-\tzero".toList.all fun c => !isSpacing c || isSeparator c) = true := by decide
    intro c hc hspacing
    simpa [hspacing] using List.all_eq_true.mp hall c hc
  refine ⟨hpieces, hs, ht, (hsame.mpr hseparators).trans hname, ?_⟩
  exact (hrespelled hseparators name hname).2 (by decide) "<digit> ::= ".toList "\n".toList 2
    ⟨12, 1, 13⟩ hnext (by decide)

/-- A no-break space is white space, but joins what it stands between to one word. -/
theorem ofText?_noBreakSpace_ne :
    (∀ piece ∈ [['a'], ['b']], ∀ c ∈ piece, isSpacing c = false ∧ isLineBreak c = false) ∧
      SpelledWith isSpacing [['a'], ['b']] "a b".toList ∧
      SpelledWith isSpacing [['a'], ['b']] "a\u00a0b".toList ∧
      ofText? "a\u00a0b".toList ≠ ofText? "a b".toList := by
  refine ⟨plain_of_all (by decide), ?_, ?_, by decide +kernel⟩
  · exact .cons ['a'] (List.cons_ne_nil ' ' []) (List.all_eq_true.mp (by decide)) (.single ['b'])
  · exact .cons ['a'] (List.cons_ne_nil '\u00a0' []) (List.all_eq_true.mp (by decide)) (.single ['b'])

end Name

end TypedGrammar
