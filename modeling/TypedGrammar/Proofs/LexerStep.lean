import TypedGrammar.Proofs.LexedText

/-!
# Steps of a lexer

What one read of a lexer can come to: trivia is skipped, and then a rule ends, the input ends, or the text
that follows is scanned. A scan goes no further than its token or its error, and all of that is on one
line unless a delimiter holds a line break.
-/

namespace TypedGrammar

/-- Whether the lexeme is read from characters of its own. The end of the input is not, nor is the end
of a rule that a line break ends. -/
def Lexeme.isScanned (d : Dialect) : Lexeme → Bool
  | .endOfInput => false
  | .ruleTerminator => !d.lineOriented
  | _ => true

namespace Dialect

/-! ### What is scanned -/

/-- How far a scan goes: past its token, or to the place of its error. -/
def extent {α : Type} : Except (LexErrorKind × Nat) (α × Nat) → Nat
  | .ok (_, n) => n
  | .error (_, n) => n

lemma extent_map {α β : Type} {f : α × Nat → β × Nat} (hf : ∀ token, (f token).2 = token.2)
    (result : Except (LexErrorKind × Nat) (α × Nat)) : extent (result.map f) = extent result := by
  cases result with
  | error error => rfl
  | ok token => exact hf token

/-- The text has `n` characters, and no line break is among the first of them. -/
def OnLine (text : List Char) (n : Nat) : Prop :=
  n ≤ text.length ∧ ∀ c ∈ text.take n, isLineBreak c = false

/-- The delimiters of the dialect and what begins its comments. -/
def delimiters (d : Dialect) : List (List Char) :=
  [d.assign, d.alternative, d.epsilon] ++ d.concatenation.toList ++ d.comment.toList ++
    match d.terminator with
    | .symbol text => [text]
    | .lineBreak => []

/-- No delimiter holds a line break. -/
def Unbroken (d : Dialect) : Prop :=
  ∀ text ∈ d.delimiters, ∀ c ∈ text, isLineBreak c = false

variable {d : Dialect} {text : List Char} {c first : Char} {n : Nat}

lemma onLine_zero (text : List Char) : OnLine text 0 := by
  simp [OnLine]

lemma OnLine.cons (h : OnLine text n) (hc : isLineBreak c = false) : OnLine (c :: text) (n + 1) := by
  refine ⟨Nat.succ_le_succ h.1, ?_⟩
  rw [List.take_succ_cons]
  exact List.forall_mem_cons.mpr ⟨hc, h.2⟩

lemma OnLine.mono (h : OnLine text n) {k : Nat} (hk : k ≤ n) : OnLine text k := by
  refine ⟨Nat.le_trans hk h.1, fun c hc => h.2 c ?_⟩
  rw [← Nat.min_eq_left hk, ← List.take_take] at hc
  exact List.mem_of_mem_take hc

lemma OnLine.concat (h : OnLine text n) {after : List Char} (hdrop : text.drop n = c :: after)
    (hc : isLineBreak c = false) : OnLine text (n + 1) := by
  have hnth : text[n]? = some c := by
    rw [← Nat.add_zero n, ← List.getElem?_drop, hdrop]
    rfl
  obtain ⟨hlt, _⟩ := List.getElem?_eq_some_iff.mp hnth
  refine ⟨hlt, fun b hb => ?_⟩
  rw [List.take_add_one, hnth] at hb
  rcases List.mem_append.mp hb with hb | hb
  · exact h.2 b hb
  · rw [List.mem_singleton.mp hb]
    exact hc

lemma take_takeWhile (p : Char → Bool) (text : List Char) :
    text.take (text.takeWhile p).length = text.takeWhile p :=
  (List.prefix_iff_eq_take.mp (List.takeWhile_prefix p)).symm

lemma drop_takeWhile (p : Char → Bool) (text : List Char) :
    text.drop (text.takeWhile p).length = text.dropWhile p := by
  have hdrop : (text.takeWhile p ++ text.dropWhile p).drop (text.takeWhile p).length =
      text.dropWhile p := List.drop_left
  rwa [List.takeWhile_append_dropWhile] at hdrop

lemma onLine_takeWhile {p : Char → Bool} (hp : ∀ c, p c = true → isLineBreak c = false)
    (text : List Char) : OnLine text (text.takeWhile p).length := by
  refine ⟨(List.takeWhile_prefix p).length_le, fun c hc => hp c ?_⟩
  rw [take_takeWhile] at hc
  exact List.mem_takeWhile_imp hc

lemma isLineBreak_of_isNameChar (h : isNameChar c = true) : isLineBreak c = false := by
  rw [← Bool.not_eq_true]
  intro hbreak
  simp only [isLineBreak, Bool.or_eq_true, beq_iff_eq] at hbreak
  rcases hbreak with rfl | rfl <;> exact absurd h (by decide)

/-- `k` is nothing or `n` characters and some more, which are the first of the text and on one line. -/
def OnLineFrom (n : Nat) (text : List Char) (k : Nat) : Prop :=
  k = 0 ∨ ∃ j, k = n + j ∧ OnLine text j

lemma OnLineFrom.cons {k : Nat} (h : OnLineFrom (n + 1) text k) (hc : isLineBreak c = false) :
    OnLineFrom n (c :: text) k := by
  rcases h with h | ⟨j, hj, hline⟩
  · exact .inl h
  · exact .inr ⟨j + 1, by omega, hline.cons hc⟩

lemma onLine_of_onLineFrom {k : Nat} (h : OnLineFrom 1 text k) (hc : isLineBreak c = false) :
    OnLine (c :: text) k := by
  rcases h with rfl | ⟨j, rfl, hline⟩
  · exact onLine_zero _
  · rw [Nat.add_comm]
    exact hline.cons hc

lemma onLineFrom_scanBody (quote : Char) (escape : Option Char) (escaped : Bool) (n : Nat)
    (text : List Char) :
    OnLineFrom n text (extent (scanBody quote escape escaped n text)) := by
  fun_induction scanBody quote escape escaped n text with
  | case1 => exact .inl rfl
  | case2 escaped n c text hbreak => exact .inr ⟨0, rfl, onLine_zero _⟩
  | case3 escaped n c text hbreak hescape ih => exact ih.cons (by simpa using hbreak)
  | case4 escaped n c text hbreak hescape hquote =>
    exact .inr ⟨1, rfl, (onLine_zero text).cons (by simpa using hbreak)⟩
  | case5 escaped n c text hbreak hescape hquote ih =>
    rw [extent_map]
    · exact ih.cons (by simpa using hbreak)
    · exact fun _ => rfl

lemma onLine_scanLiteral (d : Dialect) (hc : isLineBreak first = false) (quote : Char)
    (text : List Char) : OnLine (first :: text) (extent (d.scanLiteral quote text)) := by
  have hbody := onLine_of_onLineFrom (onLineFrom_scanBody quote d.escape false 1 text) hc
  unfold scanLiteral
  cases hscan : scanBody quote d.escape false 1 text with
  | error error =>
    rw [hscan] at hbody
    exact hbody
  | ok result =>
    rw [hscan] at hbody
    obtain ⟨body, length⟩ := result
    simp only [bind, Except.bind]
    cases Line.ofText? body with
    | ok line => exact hbody
    | error error => exact hbody.mono (Nat.sub_le length 1)

lemma onLine_scanBracketed (hc : isLineBreak first = false) (closing : Char) (text : List Char) :
    OnLine (first :: text) (extent (scanBracketed closing text)) := by
  have hinner : OnLine text (text.takeWhile fun c => !isLineBreak c && c != closing).length := by
    apply onLine_takeWhile
    intro c hc
    simpa using (Bool.and_eq_true_iff.mp hc).1
  unfold scanBracketed
  generalize text.takeWhile (fun c => !isLineBreak c && c != closing) = inner at hinner
  dsimp only
  split
  · exact onLine_zero _
  · rename_i c after hdrop
    split
    · exact hinner.cons hc
    · rename_i hline
      split
      · exact (hinner.concat hdrop (by simpa using hline)).cons hc
      · exact hinner.cons hc

lemma onLine_scanBare (d : Dialect) (hc : isLineBreak first = false) (text : List Char) :
    OnLine (first :: text) (extent (d.scanBare first text)) := by
  unfold scanBare
  split
  · have hword := (onLine_takeWhile (fun c => isLineBreak_of_isNameChar (c := c)) text).cons hc
    dsimp only
    split
    · exact hword
    · split
      · exact hword
      · exact onLine_zero _
  · exact onLine_zero _

lemma mem_delimiters_of_mem_keywords {keyword : Lexeme × List Char} (h : keyword ∈ d.keywords) :
    keyword.2 ∈ d.delimiters := by
  simp only [keywords, List.append_assoc, List.mem_append, List.mem_cons, List.not_mem_nil,
    or_false] at h
  rw [delimiters]
  rcases h with h | (rfl | rfl) | h | h
  · split at h <;> simp_all
  · simp
  · simp
  · split at h <;> simp_all
  · split at h <;> simp_all

lemma le_of_keyword? {lexeme : Lexeme} (h : d.keyword? text = some (lexeme, n)) :
    n ≤ text.length ∧ (d.Unbroken → OnLine text n) := by
  obtain ⟨keyword, hfind, hkeyword⟩ := Option.map_eq_some_iff.mp h
  cases hkeyword
  have hword : keyword.2 <+: text := by simpa using List.find?_some hfind
  refine ⟨hword.length_le, fun hd => ⟨hword.length_le, ?_⟩⟩
  rw [← List.prefix_iff_eq_take.mp hword]
  exact hd _ (mem_delimiters_of_mem_keywords (List.mem_of_find?_eq_some hfind))

lemma isWhiteSpace_of_isLineBreak (h : isLineBreak c = true) : Unicode.isWhiteSpace c = true := by
  by_contra hspace
  rw [isLineBreak_eq_false (by simpa using hspace)] at h
  cases h

lemma isLineBreak_of_trivia?_eq_none (h : d.trivia? (c :: text) = none) : isLineBreak c = false := by
  rw [← Bool.not_eq_true]
  intro hbreak
  have hspace := takeWhile_isSpace_of_trivia? h
  have hlength := lineBreakLength_of_trivia? h
  cases hd : d.lineOriented with
  | true => simp [lineBreakLength, hd, hbreak] at hlength
  | false => simp [isSpace, hd, isWhiteSpace_of_isLineBreak hbreak] at hspace

lemma OnLine.bounds (h : OnLine text n) : n ≤ text.length ∧ (d.Unbroken → OnLine text n) :=
  ⟨h.1, fun _ => h⟩

/-- A scan stays within the text, and on its line where no delimiter is broken. -/
theorem extent_scan (h : d.trivia? text = none) : extent (d.scan text) ≤ text.length ∧
    (d.Unbroken → OnLine text (extent (d.scan text))) := by
  cases text with
  | nil => exact ⟨Nat.le_refl 0, fun _ => onLine_zero []⟩
  | cons first text =>
    have hc := isLineBreak_of_trivia?_eq_none h
    rw [scan]
    split
    · rename_i token hkeyword
      exact le_of_keyword? hkeyword
    · apply OnLine.bounds
      split
      · exact onLine_scanLiteral d hc first text
      · split
        · split
          · exact onLine_scanBracketed hc _ text
          · exact onLine_scanBare d hc text
        · exact onLine_scanBare d hc text

lemma isScanned_of_mem_keywords {keyword : Lexeme × List Char} (h : keyword ∈ d.keywords) :
    keyword.1.isScanned d = true := by
  simp only [keywords, List.append_assoc, List.mem_append, List.mem_cons, List.not_mem_nil,
    or_false] at h
  rcases h with h | (rfl | rfl) | h | h
  · split at h
    · rename_i hterminator
      rw [List.mem_singleton.mp h]
      simp [Lexeme.isScanned, lineOriented, hterminator]
    · cases h
  · rfl
  · rfl
  · split at h
    · rw [List.mem_singleton.mp h]
      rfl
    · cases h
  · split at h
    · cases h
    · rw [List.mem_singleton.mp h]
      rfl

lemma isScanned_of_scanBracketed {closing : Char} {lexeme : Lexeme}
    (h : scanBracketed closing text = .ok (lexeme, n)) : lexeme.isScanned d = true := by
  unfold scanBracketed at h
  dsimp only at h
  split at h
  · cases h
  · split at h
    · cases h
    · split at h <;> cases h
      rfl

lemma isScanned_of_scanBare {lexeme : Lexeme} (h : d.scanBare first text = .ok (lexeme, n)) :
    lexeme.isScanned d = true := by
  unfold scanBare at h
  split at h
  · dsimp only at h
    split at h
    · cases h
      rfl
    · split at h <;> cases h
      rfl
  · cases h

lemma isScanned_of_scan {lexeme : Lexeme} (h : d.scan (first :: text) = .ok (lexeme, n)) :
    lexeme.isScanned d = true := by
  rw [scan] at h
  split at h
  · rename_i hkeyword
    cases h
    obtain ⟨keyword, hfind, hkeyword⟩ := Option.map_eq_some_iff.mp hkeyword
    cases hkeyword
    exact isScanned_of_mem_keywords (List.mem_of_find?_eq_some hfind)
  · split at h
    · obtain ⟨_, _, rfl⟩ := scanLiteral_eq_ok_iff.mp h
      rfl
    · split at h
      · split at h
        · exact isScanned_of_scanBracketed h
        · exact isScanned_of_scanBare h
      · exact isScanned_of_scanBare h

/-! ### What is skipped -/

/-- Nothing is left to skip. -/
lemma trivia?_skipTrivia (d : Dialect) (crossed : Option Position) (cursor : Cursor) :
    d.trivia? (d.skipTrivia crossed cursor).2.rest = none := by
  fun_induction skipTrivia d crossed cursor with
  | case1 crossed cursor h => exact h
  | case2 crossed cursor t n h ih => exact ih

lemma lineOriented_of_trivia? (h : d.trivia? text = some (.lineBreak, n)) :
    d.lineOriented = true := by
  unfold trivia? at h
  split at h
  · cases h
  · split at h
    · cases h
    · split at h
      · rename_i hbreak
        by_contra hd
        rw [lineBreakLength, if_neg hd] at hbreak
        exact Nat.lt_irrefl 0 hbreak
      · cases h

/-- Line breaks are looked for only where they can end rules. -/
lemma lineOriented_of_skipTrivia (d : Dialect) (cursor : Cursor) {crossed : Option Position}
    (hcrossed : crossed.isSome → d.lineOriented = true) :
    (d.skipTrivia crossed cursor).1.isSome → d.lineOriented = true := by
  fun_induction skipTrivia d crossed cursor with
  | case1 crossed cursor h => exact hcrossed
  | case2 crossed cursor t n h ih =>
    apply ih
    split
    · rename_i ht
      subst ht
      exact fun _ => lineOriented_of_trivia? h
    · exact hcrossed

end Dialect

namespace Lexer

lemma ruleEnd?_eq_some {l : Lexer} {crossed : Option Position} {cursor : Cursor}
    {position : Position} (h : l.ruleEnd? crossed cursor = some position) :
    l.ruleOpen = true ∧ (crossed = some position ∨ position = cursor.position) := by
  unfold ruleEnd? at h
  split at h
  · rename_i hopen
    refine ⟨hopen, ?_⟩
    split at h
    · exact .inl h
    · split at h <;> cases h
      exact .inr rfl
  · cases h

/-- What reading comes to, and the lexer after it. Trivia is skipped first; then a rule ends before what
follows, or what follows is scanned. -/
inductive Reads (l : Lexer) : Except LexError Token → Lexer → Prop
  | ruleEnd {crossed : Option Position} {cursor : Cursor} {position : Position}
      (hskip : l.dialect.skipTrivia none l.cursor = (crossed, cursor))
      (hrule : l.ruleEnd? crossed cursor = some position) :
      l.Reads (.ok ⟨.ruleTerminator, position⟩) { l with cursor := cursor, ruleOpen := false }
  | endOfInput {crossed : Option Position} {cursor : Cursor}
      (hskip : l.dialect.skipTrivia none l.cursor = (crossed, cursor)) (hrest : cursor.rest = []) :
      l.Reads (.ok ⟨.endOfInput, cursor.position⟩) { l with cursor := cursor, stopped := true }
  | error {crossed : Option Position} {cursor : Cursor} {first : Char} {text : List Char}
      {kind : LexErrorKind} {n : Nat}
      (hskip : l.dialect.skipTrivia none l.cursor = (crossed, cursor))
      (hrest : cursor.rest = first :: text)
      (hscan : l.dialect.scan (first :: text) = .error (kind, n)) :
      l.Reads (.error ⟨kind, (cursor.skip n).position⟩) { l with cursor := cursor, stopped := true }
  | token {crossed : Option Position} {cursor : Cursor} {first : Char} {text : List Char}
      {lexeme : Lexeme} {n : Nat}
      (hskip : l.dialect.skipTrivia none l.cursor = (crossed, cursor))
      (hrest : cursor.rest = first :: text)
      (hscan : l.dialect.scan (first :: text) = .ok (lexeme, n)) :
      l.Reads (.ok ⟨lexeme, cursor.position⟩)
        { l with cursor := cursor.skip n, ruleOpen := lexeme ≠ .ruleTerminator }

theorem reads_read (l : Lexer) : l.Reads l.read.1 l.read.2 := by
  generalize hskip : l.dialect.skipTrivia none l.cursor = skipped
  obtain ⟨crossed, cursor⟩ := skipped
  rw [read_of_skipTrivia hskip, readFrom]
  cases hrule : l.ruleEnd? crossed cursor with
  | some position => exact .ruleEnd hskip hrule
  | none =>
    dsimp only
    cases hrest : cursor.rest with
    | nil => exact .endOfInput hskip hrest
    | cons first text =>
      split
      · rename_i hscan
        exact .error hskip hrest hscan
      · rename_i hscan
        cases Dialect.isScanned_of_scan hscan
      · rename_i hscan
        exact .token hskip hrest hscan

/-- The lexer after this many calls. -/
def after (l : Lexer) : Nat → Lexer
  | 0 => l
  | n + 1 => l.next?.2.after n

end Lexer

end TypedGrammar
