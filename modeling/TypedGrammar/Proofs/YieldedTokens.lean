import TypedGrammar.Proofs.LexerStep

/-!
# Tokens that a lexer yields

A parser reads a stream that holds everything its lexer will yield. Where no delimiter is empty that
is the same as asking the lexer for one token at a time. An empty delimiter is found before anything
else and for ever, so that no name is ever yielded; then stream and lexer still agree on what comes
first.
-/

namespace TypedGrammar

namespace Lexer

/-- The lexer yields the tokens one after another, and is `after` then. -/
inductive Yields : Lexer → List Token → Lexer → Prop
  | nil {l : Lexer} : Yields l [] l
  | cons {l next after : Lexer} {token : Token} {tokens : List Token}
      (hnext : l.next? = (some (.ok token), next)) (hrest : Yields next tokens after) :
      Yields l (token :: tokens) after

lemma Yields.append {l next after : Lexer} {tokens others : List Token} (h : l.Yields tokens next)
    (h' : next.Yields others after) : l.Yields (tokens ++ others) after := by
  induction h with
  | nil => exact h'
  | cons hnext _ ih => exact .cons hnext (ih h')

lemma yields_append_iff {l after : Lexer} {tokens others : List Token} :
    l.Yields (tokens ++ others) after ↔ ∃ next, l.Yields tokens next ∧ next.Yields others after := by
  constructor
  · induction tokens generalizing l with
    | nil => exact fun h => ⟨l, .nil, h⟩
    | cons token tokens ih =>
      rintro (_ | ⟨hnext, hrest⟩)
      obtain ⟨next, htokens, hothers⟩ := ih hrest
      exact ⟨next, .cons hnext htokens, hothers⟩
  · rintro ⟨next, htokens, hothers⟩
    exact htokens.append hothers

end Lexer

namespace Dialect

/-- Every delimiter that is looked for has characters. -/
def Delimited (d : Dialect) : Prop :=
  ∀ keyword ∈ d.keywords, keyword.2 ≠ []

lemma part?_of_mem_keywords {d : Dialect} {keyword : Lexeme × List Char} (h : keyword ∈ d.keywords) :
    keyword.1.part? = none := by
  rcases lexeme_of_mem_keywords h with hmem | ⟨hseparator, _⟩
  · generalize keyword.1 = lexeme at hmem
    simp only [List.mem_cons, List.not_mem_nil, or_false] at hmem
    rcases hmem with rfl | rfl | rfl | rfl <;> rfl
  · rw [hseparator]
    rfl

/-- An empty delimiter is found wherever anything follows, so that no part is. -/
lemma part?_of_scan {d : Dialect} (hd : ¬ d.Delimited) {text : List Char} {lexeme : Lexeme} {n : ℕ}
    (h : d.scan text = .ok (lexeme, n)) : lexeme.part? = none := by
  cases text with
  | nil =>
    cases h
    rfl
  | cons first text =>
    simp only [Delimited, not_forall, not_not] at hd
    obtain ⟨empty, hempty, hnil⟩ := hd
    rw [scan] at h
    cases hkeyword : d.keyword? (first :: text) with
    | none =>
      rw [keyword?, Option.map_eq_none_iff, List.find?_eq_none] at hkeyword
      have hfound := hkeyword empty hempty
      simp [hnil] at hfound
    | some token =>
      rw [hkeyword] at h
      cases h
      obtain ⟨keyword, hfind, hkeyword⟩ := Option.map_eq_some_iff.mp hkeyword
      cases hkeyword
      exact part?_of_mem_keywords (List.mem_of_find?_eq_some hfind)

lemma lt_of_scanBody {quote : Char} {escape : Option Char} {escaped : Bool} {n length : ℕ}
    {text body : List Char} (h : scanBody quote escape escaped n text = .ok (body, length)) :
    n < length := by
  fun_induction scanBody quote escape escaped n text generalizing body with
  | case1 => cases h
  | case2 => cases h
  | case3 escaped n c text _ _ ih => exact Nat.lt_of_succ_lt (ih h)
  | case4 =>
    cases h
    exact Nat.lt_succ_self _
  | case5 escaped n c text _ _ _ ih =>
    cases hrest : scanBody quote escape false (n + 1) text with
    | error error =>
      rw [hrest] at h
      cases h
    | ok rest =>
      rw [hrest] at h
      cases h
      exact Nat.lt_of_succ_lt (ih hrest)

lemma pos_of_keyword? {d : Dialect} (hd : d.Delimited) {text : List Char} {lexeme : Lexeme} {n : ℕ}
    (h : d.keyword? text = some (lexeme, n)) : 0 < n := by
  obtain ⟨keyword, hfind, hkeyword⟩ := Option.map_eq_some_iff.mp h
  cases hkeyword
  exact List.length_pos_of_ne_nil (hd keyword (List.mem_of_find?_eq_some hfind))

lemma pos_of_scanBracketed {closing : Char} {text : List Char} {lexeme : Lexeme} {n : ℕ}
    (h : scanBracketed closing text = .ok (lexeme, n)) : 0 < n := by
  unfold scanBracketed at h
  dsimp only at h
  split at h
  · cases h
  · split at h
    · cases h
    · split at h
      · cases h
        exact Nat.succ_pos _
      · cases h

lemma pos_of_scanBare {d : Dialect} {first : Char} {text : List Char} {lexeme : Lexeme} {n : ℕ}
    (h : d.scanBare first text = .ok (lexeme, n)) : 0 < n := by
  unfold scanBare at h
  split at h
  · dsimp only at h
    split at h
    · cases h
      exact Nat.succ_pos _
    · split at h
      · cases h
        exact Nat.succ_pos _
      · cases h
  · cases h

/-- Where no delimiter is empty every token has characters. -/
lemma pos_of_scan {d : Dialect} (hd : d.Delimited) {first : Char} {text : List Char}
    {lexeme : Lexeme} {n : ℕ} (h : d.scan (first :: text) = .ok (lexeme, n)) : 0 < n := by
  rw [scan] at h
  split at h
  · rename_i hkeyword
    cases h
    exact pos_of_keyword? hd hkeyword
  · split at h
    · obtain ⟨_, hbody, _⟩ := scanLiteral_eq_ok_iff.mp h
      exact (Nat.zero_lt_one).trans (lt_of_scanBody hbody)
    · split at h
      · split at h
        · exact pos_of_scanBracketed h
        · exact pos_of_scanBare h
      · exact pos_of_scanBare h

lemma rest_skipTrivia_suffix (d : Dialect) (crossed : Option Position) (cursor : Cursor) :
    (d.skipTrivia crossed cursor).2.rest <:+ cursor.rest := by
  fun_induction skipTrivia d crossed cursor with
  | case1 => exact List.suffix_rfl
  | case2 crossed cursor t n h ih => exact ih.trans (List.drop_suffix n cursor.rest)

end Dialect

namespace Lexer

variable {l after : Lexer} {token : Token}

lemma next?_of_not_stopped (hl : l.stopped = false) : l.next? = (some l.read.1, l.read.2) := by
  rw [next?, hl]
  rfl

lemma rest_readFrom_suffix (l : Lexer) (crossed : Option Position) (cursor : Cursor) :
    (l.readFrom crossed cursor).2.cursor.rest <:+ cursor.rest := by
  rw [readFrom]
  split
  · exact List.suffix_rfl
  · split
    · exact List.suffix_rfl
    · exact List.suffix_rfl
    · exact List.drop_suffix _ _

lemma rest_read_suffix (l : Lexer) : l.read.2.cursor.rest <:+ l.cursor.rest := by
  rw [read_of_skipTrivia rfl]
  exact (l.rest_readFrom_suffix _ _).trans (l.dialect.rest_skipTrivia_suffix none l.cursor)

/-- A lexer goes on after any token but the last. -/
lemma read_eq_ok (h : l.read = (.ok token, after)) (htoken : token.lexeme ≠ .endOfInput) :
    after.dialect = l.dialect ∧ after.stopped = l.stopped ∧
      (l.dialect.Delimited → after.size < l.size) := by
  have hle := (l.dialect.rest_skipTrivia_suffix none l.cursor).length_le
  have hreads := l.reads_read
  rw [h] at hreads
  cases hreads with
  | ruleEnd hskip hrule =>
    refine ⟨rfl, rfl, fun _ => ?_⟩
    obtain ⟨hopen, _⟩ := ruleEnd?_eq_some hrule
    rw [hskip] at hle
    simp only [size, hopen, Bool.false_eq_true, if_false, if_true] at hle ⊢
    omega
  | endOfInput => exact absurd rfl htoken
  | token hskip hrest hscan =>
    refine ⟨rfl, rfl, fun hd => ?_⟩
    have hpos := Dialect.pos_of_scan hd hscan
    rw [hskip] at hle
    simp only [size, Cursor.rest_skip, hrest, List.length_drop, List.length_cons] at hle ⊢
    split <;> split <;> omega

/-- What comes first in the stream is what the lexer yields first. -/
lemma pull_stream {result : Except LexError Token} (h : l.next? = (some result, after)) :
    l.stream.pull.1 = result := by
  cases result with
  | error error =>
    rw [stream, h]
    rfl
  | ok token =>
    by_cases htoken : token.lexeme = .endOfInput
    · obtain ⟨lexeme, position⟩ := token
      obtain rfl := htoken
      rw [stream_of_endOfInput h]
      rfl
    · rw [stream, h]
      dsimp only
      rw [if_neg htoken]
      split <;> rfl

lemma read_of_next? {result : Except LexError Token} (h : l.next? = (some result, after)) :
    l.read = (result, after) ∧ l.stopped = false := by
  unfold next? at h
  split at h
  · cases h
  · rename_i hl
    cases h
    exact ⟨rfl, by simpa using hl⟩

lemma stopped_of_next?_error {error : LexError} (h : l.next? = (some (.error error), after)) :
    after.stopped = true := by
  have hreads := l.reads_read
  rw [(read_of_next? h).1] at hreads
  cases hreads with
  | error => rfl

lemma next?_eq_ok (h : l.next? = (some (.ok token), after)) (htoken : token.lexeme ≠ .endOfInput) :
    after.dialect = l.dialect ∧ after.stopped = false ∧
      (l.dialect.Delimited → l.stream = after.stream.cons token) := by
  obtain ⟨hread, hl⟩ := read_of_next? h
  obtain ⟨hdialect, hstopped, hsize⟩ := read_eq_ok hread htoken
  exact ⟨hdialect, hstopped.trans hl, fun hd => stream_of_token h htoken (hsize hd)⟩

/-- The stream holds the tokens that are yielded, in their order. -/
lemma Yields.tokens_stream {tokens : List Token} (h : l.Yields tokens after)
    (hd : l.dialect.Delimited) (htokens : ∀ token ∈ tokens, token.lexeme ≠ .endOfInput) :
    l.stream = ⟨tokens ++ after.stream.tokens, after.stream.ending⟩ := by
  induction h with
  | nil => rfl
  | cons hnext _ ih =>
    obtain ⟨htoken, htokens⟩ := List.forall_mem_cons.mp htokens
    obtain ⟨hdialect, _, hstream⟩ := next?_eq_ok hnext htoken
    rw [hstream hd, ih (hdialect ▸ hd) htokens]
    rfl

/-- A stream from which a part is read first comes from a dialect without empty delimiters. -/
lemma delimited_of_part? (h : l.next? = (some (.ok token), after))
    (hpart : token.lexeme.part?.isSome) : l.dialect.Delimited := by
  by_contra hd
  have hreads := l.reads_read
  rw [(read_of_next? h).1] at hreads
  cases hreads with
  | ruleEnd => cases hpart
  | endOfInput => cases hpart
  | token _ _ hscan =>
    rw [Dialect.part?_of_scan hd hscan] at hpart
    cases hpart

end Lexer

namespace Parser

/-- The parser looks at what the lexer yields next, and will read what is yielded after that. -/
def Follows (p : Parser) (l : Lexer) : Prop :=
  ∃ after, l.next? = (some (.ok p.current), after) ∧
    (p.current.lexeme ≠ .endOfInput → p.ahead = after.stream)

lemma follows_of_pull {p : Parser} {l : Lexer} (hd : l.dialect.Delimited) (hl : l.stopped = false)
    (hpull : l.stream.pull = (.ok p.current, p.ahead)) : p.Follows l := by
  have hnext := Lexer.next?_of_not_stopped hl
  have hfirst := Lexer.pull_stream hnext
  rw [hpull] at hfirst
  rw [← hfirst] at hnext
  refine ⟨_, hnext, fun hcurrent => ?_⟩
  obtain ⟨_, _, hstream⟩ := Lexer.next?_eq_ok hnext hcurrent
  rw [hstream hd] at hpull
  exact (congrArg Prod.snd hpull).symm

lemma pull_of_bump {p q : Parser} (h : p.bump = (.ok (), q)) :
    p.ahead.pull = (.ok q.current, q.ahead) := by
  unfold bump at h
  split at h
  · rename_i hpull
    cases h
    exact hpull
  · cases h

/-- What a parser has moved over was yielded by its lexer. -/
theorem Passes.yields {p q : Parser} {l : Lexer} {lexemes : List Lexeme} (h : p.Passes lexemes q)
    (hd : l.dialect.Delimited) (hp : p.Follows l) (hlexemes : .endOfInput ∉ lexemes) :
    ∃ tokens after, l.Yields tokens after ∧ tokens.map Token.lexeme = lexemes ∧ q.Follows after := by
  induction h generalizing l with
  | nil => exact ⟨[], l, .nil, rfl, hp⟩
  | cons hbump _ ih =>
    obtain ⟨hlexeme, hlexemes⟩ := List.ne_and_not_mem_of_not_mem_cons hlexemes
    obtain ⟨next, hnext, hahead⟩ := hp
    obtain ⟨hdialect, hstopped, _⟩ := Lexer.next?_eq_ok hnext hlexeme.symm
    have hpull := pull_of_bump hbump
    rw [hahead hlexeme.symm] at hpull
    rw [← hdialect] at hd
    obtain ⟨tokens, after, hyields, hmap, hq⟩ := ih hd (follows_of_pull hd hstopped hpull) hlexemes
    exact ⟨_, after, .cons hnext hyields, by rw [List.map_cons, hmap], hq⟩

/-- When a parser cannot move on, the lexer yields an error after the current token. -/
lemma Follows.next?_of_bump {p : Parser} {l : Lexer} {error : LexError} (h : p.Follows l)
    (hcurrent : p.current.lexeme ≠ .endOfInput) (hbump : p.bump.1 = .error (.lex error)) :
    ∃ after, l.Yields [p.current] after ∧ after.next?.1 = some (.error error) := by
  obtain ⟨after, hnext, hahead⟩ := h
  obtain ⟨_, hstopped, _⟩ := Lexer.next?_eq_ok hnext hcurrent
  refine ⟨after, .cons hnext .nil, ?_⟩
  have hafter := Lexer.next?_of_not_stopped hstopped
  have hfirst := Lexer.pull_stream hafter
  rw [← hahead hcurrent] at hfirst
  rw [hafter, ← hfirst]
  unfold bump at hbump
  split at hbump
  · cases hbump
  · rename_i hpull
    cases hbump
    rw [hpull]

/-- A parser at the beginning of source looks at the first token of the source, and follows its lexer
from there if that token can begin a rule. -/
lemma follows_of_ofSource {d : Dialect} {source : List Char} {p : Parser}
    (h : ofSource d source = .ok p) :
    p.separated = d.concatenation.isSome ∧
      (∃ after, (Lexer.ofSource d source).next? = (some (.ok p.current), after)) ∧
        (p.current.lexeme.part?.isSome → d.Delimited ∧ p.Follows (Lexer.ofSource d source)) := by
  unfold ofSource at h
  split at h
  · rename_i token ahead hpull
    cases h
    have hnext := Lexer.next?_of_not_stopped (l := Lexer.ofSource d source) rfl
    have hfirst := Lexer.pull_stream hnext
    rw [hpull] at hfirst
    rw [← hfirst] at hnext
    refine ⟨rfl, ⟨_, hnext⟩, fun hpart => ?_⟩
    have hd := Lexer.delimited_of_part? hnext hpart
    exact ⟨hd, follows_of_pull hd rfl hpull⟩
  · cases h

lemma next?_of_ofSource {d : Dialect} {source : List Char} {error : ParseError}
    (h : ofSource d source = .error error) :
    ∃ lexError, error = .lex lexError ∧
      (Lexer.ofSource d source).next?.1 = some (.error lexError) := by
  unfold ofSource at h
  split at h
  · cases h
  · rename_i lexError ahead hpull
    cases h
    have hnext := Lexer.next?_of_not_stopped (l := Lexer.ofSource d source) rfl
    have hfirst := Lexer.pull_stream hnext
    rw [hpull] at hfirst
    exact ⟨lexError, rfl, by rw [hnext, ← hfirst]⟩

end Parser

end TypedGrammar
