import TypedGrammar.Proofs.PrintedLexeme
import TypedGrammar.Proofs.YieldedTokens

/-!
# Scanned words

A word that is scanned as a token is scanned as the same token before any other text, as long as no name can
be read on from its end. This holds where the first character of a delimiter tells which one it is.
-/

namespace TypedGrammar.Dialect

/-- The delimiters are told apart by their first characters, with which no other token begins. -/
structure ToldApart (d : Dialect) : Prop where
  delimited : d.Delimited
  first : ∀ keyword ∈ d.keywords, ∀ c ∈ keyword.2.head?,
    c ∉ d.quotes ∧ (∀ brackets ∈ d.brackets, c ≠ brackets.1) ∧ isNameStart c = false
  apart : ∀ keyword ∈ d.keywords, ∀ other ∈ d.keywords,
    keyword.2.head? = other.2.head? → keyword = other

variable {d : Dialect} {text text' word : List Char} {first : Char} {lexeme : Lexeme} {n : ℕ}

/-! ### What scans a token -/

/-- A token is a delimiter, or else a literal, a name in brackets, or a bare name. -/
lemma scan_cons_eq_ok_iff : d.scan (first :: text) = .ok (lexeme, n) ↔
    d.keyword? (first :: text) = some (lexeme, n) ∨
      (d.keyword? (first :: text) = none ∧
        ((first ∈ d.quotes ∧ d.scanLiteral first text = .ok (lexeme, n)) ∨
          (first ∉ d.quotes ∧ ∃ closing, d.brackets = some (first, closing) ∧
            scanBracketed closing text = .ok (lexeme, n)) ∨
          (first ∉ d.quotes ∧ (∀ closing, d.brackets ≠ some (first, closing)) ∧
            d.scanBare first text = .ok (lexeme, n)))) := by
  rw [scan]
  cases d.keyword? (first :: text) with
  | some token => simp [Except.ok.injEq]
  | none =>
    by_cases hquote : first ∈ d.quotes
    · simp [hquote]
    · cases hbrackets : d.brackets with
      | none => simp [hquote]
      | some brackets =>
        obtain ⟨opening, closing⟩ := brackets
        by_cases hfirst : first = opening
        · subst hfirst
          simp [hquote]
        · simp [hquote, hfirst, Ne.symm hfirst]

lemma keyword?_eq_none_iff :
    d.keyword? text = none ↔ ∀ keyword ∈ d.keywords, ¬ keyword.2 <+: text := by
  rw [keyword?, Option.map_eq_none_iff, List.find?_eq_none]
  simp

lemma ToldApart.keyword?_eq_some_iff (hd : d.ToldApart) :
    d.keyword? text = some (lexeme, n) ↔
      ∃ keyword ∈ d.keywords, keyword.2 <+: text ∧ keyword.1 = lexeme ∧ keyword.2.length = n := by
  constructor
  · intro h
    obtain ⟨keyword, hfind, hkeyword⟩ := Option.map_eq_some_iff.mp h
    cases hkeyword
    exact ⟨keyword, List.mem_of_find?_eq_some hfind, by simpa using List.find?_some hfind, rfl, rfl⟩
  · rintro ⟨keyword, hmem, hprefix, rfl, rfl⟩
    cases h : d.keyword? text with
    | none => exact absurd hprefix (keyword?_eq_none_iff.mp h keyword hmem)
    | some token =>
      obtain ⟨other, hfind, rfl⟩ := Option.map_eq_some_iff.mp h
      have hother : other.2 <+: text := by simpa using List.find?_some hfind
      obtain ⟨c, rest, hc⟩ := List.exists_cons_of_ne_nil (hd.delimited keyword hmem)
      obtain ⟨c', rest', hc'⟩ :=
        List.exists_cons_of_ne_nil (hd.delimited other (List.mem_of_find?_eq_some hfind))
      have hhead : keyword.2.head? = other.2.head? := by
        obtain ⟨after, rfl⟩ := hprefix
        rw [hc, hc', List.cons_append, List.cons_prefix_cons] at hother
        rw [hc, hc', List.head?_cons, List.head?_cons, hother.1]
      rw [hd.apart keyword hmem other (List.mem_of_find?_eq_some hfind) hhead]

/-! ### Before other text -/

lemma scanBody_congr {quote : Char} {escape : Option Char} {escaped : Bool} {body : List Char}
    (h : scanBody quote escape escaped n (word ++ text) = .ok (body, n + word.length))
    (text' : List Char) :
    scanBody quote escape escaped n (word ++ text') = .ok (body, n + word.length) := by
  induction word generalizing n escaped body with
  | nil => exact absurd (lt_of_scanBody h) (Nat.lt_irrefl n)
  | cons c word ih =>
    rw [List.cons_append, scanBody] at h ⊢
    rw [List.length_cons, Nat.add_comm word.length, ← Nat.add_assoc] at h ⊢
    split at h
    · cases h
    · rename_i hbreak
      rw [if_neg hbreak]
      split at h
      · rename_i hescape
        rw [if_pos hescape]
        exact ih h
      · rename_i hescape
        rw [if_neg hescape]
        split at h
        · rename_i hquote
          rw [if_pos hquote]
          exact h
        · rename_i hquote
          rw [if_neg hquote]
          cases hrest : scanBody quote escape false (n + 1) (word ++ text) with
          | error error =>
            rw [hrest] at h
            cases h
          | ok rest =>
            rw [hrest] at h
            obtain ⟨rest, length⟩ := rest
            obtain ⟨rfl, rfl⟩ := Prod.mk.inj (Except.ok.inj h)
            rw [ih hrest]
            rfl

lemma scanLiteral_congr {quote : Char}
    (h : d.scanLiteral quote (word ++ text) = .ok (lexeme, word.length + 1)) (text' : List Char) :
    d.scanLiteral quote (word ++ text') = .ok (lexeme, word.length + 1) := by
  obtain ⟨line, hbody, rfl⟩ := scanLiteral_eq_ok_iff.mp h
  rw [Nat.add_comm] at hbody ⊢
  exact scanLiteral_eq_ok_iff.mpr ⟨line, scanBody_congr hbody text', rfl⟩

/-- A name in brackets is what stands before the closing bracket. -/
lemma scanBracketed_eq_ok_iff {closing : Char} : scanBracketed closing text = .ok (lexeme, n) ↔
    ∃ inner after name, text = inner ++ closing :: after ∧ isLineBreak closing = false ∧
      (∀ c ∈ inner, isLineBreak c = false ∧ c ≠ closing) ∧ Name.ofText? inner = .ok name ∧
      lexeme = .identifier name ∧ n = inner.length + 2 := by
  constructor
  · intro h
    unfold scanBracketed at h
    dsimp only at h
    split at h
    · cases h
    · rename_i c after hdrop
      split at h
      · cases h
      · rename_i hbreak
        split at h
        · rename_i name hname
          cases h
          rw [drop_takeWhile] at hdrop
          have htext := List.takeWhile_append_dropWhile
            (p := fun c => !isLineBreak c && c != closing) (l := text)
          have hhead := List.head?_dropWhile_not (fun c => !isLineBreak c && c != closing) text
          rw [hdrop] at htext hhead
          have hclosing : c = closing := by simpa [hbreak] using hhead
          subst hclosing
          refine ⟨_, after, name, htext.symm, by simpa using hbreak, fun b hb => ?_, hname, rfl, rfl⟩
          simpa using List.mem_takeWhile_imp hb
        · cases h
  · rintro ⟨inner, after, name, rfl, hclosing, hinner, hname, rfl, rfl⟩
    have htake : (inner ++ closing :: after).takeWhile (fun c => !isLineBreak c && c != closing) =
        inner := takeWhile_append_of_head (fun c hc => by simp [hinner c hc]) (by simp)
    rw [scanBracketed, htake, List.drop_left]
    dsimp only
    rw [hclosing, hname]
    rfl

lemma scanBracketed_congr {closing : Char}
    (h : scanBracketed closing (word ++ text) = .ok (lexeme, word.length + 1)) (text' : List Char) :
    scanBracketed closing (word ++ text') = .ok (lexeme, word.length + 1) := by
  obtain ⟨inner, after, name, htext, hclosing, hinner, hname, rfl, hlength⟩ :=
    scanBracketed_eq_ok_iff.mp h
  rw [← List.singleton_append, ← List.append_assoc] at htext
  obtain ⟨rfl, _⟩ := List.append_inj htext (by simp; omega)
  refine scanBracketed_eq_ok_iff.mpr ⟨inner, text', name, ?_, hclosing, hinner, hname, rfl, hlength⟩
  rw [List.append_assoc, List.singleton_append]

/-- A run of characters that ends with the word cannot go on with the text. -/
lemma takeWhile_eq_of_length {p : Char → Bool}
    (h : ((word ++ text).takeWhile p).length = word.length) :
    (∀ c ∈ word, p c = true) ∧ ∀ c ∈ text.head?, p c = false := by
  have hword : (word ++ text).takeWhile p = word := by
    have htake := take_takeWhile p (word ++ text)
    rwa [h, List.take_left, eq_comm] at htake
  have hall : ∀ c ∈ word, p c = true := fun c hc => by
    rw [← hword] at hc
    exact List.mem_takeWhile_imp hc
  refine ⟨hall, fun c hc => ?_⟩
  obtain ⟨text, rfl⟩ := List.head?_eq_some_iff.mp hc
  rw [List.takeWhile_append_of_pos hall, List.append_right_eq_self] at hword
  simpa using hword

lemma length_of_scanBare (h : d.scanBare first text = .ok (lexeme, n)) :
    n = (text.takeWhile isNameChar).length + 1 := by
  unfold scanBare at h
  split at h
  · dsimp only at h
    split at h
    · cases h
      rfl
    · split at h
      · cases h
        rfl
      · cases h
  · cases h

lemma scanBare_congr (h : d.scanBare first (word ++ text) = .ok (lexeme, word.length + 1))
    (hend : EndsWord text → EndsWord text') :
    d.scanBare first (word ++ text') = .ok (lexeme, word.length + 1) := by
  have hlength := Nat.succ.inj (length_of_scanBare h)
  obtain ⟨hword, htext⟩ := takeWhile_eq_of_length hlength.symm
  rw [scanBare, takeWhile_append_of_head hword htext] at h
  rw [scanBare, takeWhile_append_of_head hword (hend htext), h]

/-- Whether a delimiter is found does not depend on what follows the word that is scanned. -/
lemma ToldApart.keyword?_congr (hd : d.ToldApart)
    (h : d.scan (first :: word ++ text) = .ok (lexeme, (first :: word).length)) (text' : List Char) :
    d.keyword? (first :: word ++ text') = d.keyword? (first :: word ++ text) := by
  rw [List.cons_append] at h
  rcases scan_cons_eq_ok_iff.mp h with hkeyword | ⟨hnone, hother⟩
  · obtain ⟨keyword, hmem, hprefix, hlexeme, hlength⟩ := hd.keyword?_eq_some_iff.mp hkeyword
    rw [List.cons_append, List.cons_append, hkeyword, ← List.cons_append,
      hd.keyword?_eq_some_iff]
    have hword : keyword.2 <+: first :: word :=
      List.prefix_of_prefix_length_le hprefix (List.prefix_append (first :: word) text) hlength.le
    exact ⟨keyword, hmem, hword.trans (List.prefix_append (first :: word) text'), hlexeme, hlength⟩
  · rw [List.cons_append, List.cons_append, hnone, keyword?_eq_none_iff]
    -- A delimiter that begins with this character would have been found before the other text too.
    intro keyword hmem hprefix
    obtain ⟨c, rest, hc⟩ := List.exists_cons_of_ne_nil (hd.delimited keyword hmem)
    obtain ⟨hquotes, hbrackets, hstart⟩ := hd.first keyword hmem c (by simp [hc])
    rw [hc, List.cons_prefix_cons] at hprefix
    obtain ⟨rfl, _⟩ := hprefix
    rcases hother with ⟨hquote, _⟩ | ⟨_, closing, hbracket, _⟩ | ⟨_, _, hbare⟩
    · exact hquotes hquote
    · exact hbrackets _ hbracket rfl
    · rw [scanBare, if_neg (by simp [hstart])] at hbare
      cases hbare

/-- A word is scanned the same before any text from which no name reads on. -/
theorem ToldApart.scan_congr (hd : d.ToldApart) (hword : word ≠ [])
    (h : d.scan (word ++ text) = .ok (lexeme, word.length)) (hend : EndsWord text → EndsWord text') :
    d.scan (word ++ text') = .ok (lexeme, word.length) := by
  obtain ⟨first, word, rfl⟩ := List.exists_cons_of_ne_nil hword
  have hkeyword := hd.keyword?_congr h text'
  rw [List.cons_append, scan_cons_eq_ok_iff] at h ⊢
  rw [List.cons_append, List.cons_append] at hkeyword
  rw [hkeyword]
  refine h.imp_right fun ⟨hnone, hother⟩ => ⟨hnone, ?_⟩
  rcases hother with ⟨hquote, hscan⟩ | ⟨hquote, closing, hbracket, hscan⟩ |
    ⟨hquote, hbracket, hscan⟩
  · exact .inl ⟨hquote, scanLiteral_congr hscan text'⟩
  · exact .inr (.inl ⟨hquote, closing, hbracket, scanBracketed_congr hscan text'⟩)
  · exact .inr (.inr ⟨hquote, hbracket, scanBare_congr hscan hend⟩)

lemma toldApart_bnf : bnf.ToldApart := by
  constructor
  · rw [Delimited, keywords_bnf]
    decide
  · rw [keywords_bnf]
    simp only [List.forall_mem_cons, List.not_mem_nil, IsEmpty.forall_iff, implies_true, and_true]
    refine ⟨?_, ?_⟩
    all_goals
      rintro c ⟨⟩
      refine ⟨by decide, ?_, by decide⟩
      rintro brackets ⟨⟩
      decide
  · rw [keywords_bnf]
    decide

lemma toldApart_ebnf : ebnf.ToldApart := by
  constructor
  · rw [Delimited, keywords_ebnf]
    decide
  · rw [keywords_ebnf]
    simp only [List.forall_mem_cons, List.not_mem_nil, IsEmpty.forall_iff, implies_true, and_true]
    refine ⟨?_, ?_, ?_, ?_⟩
    all_goals
      rintro c ⟨⟩
      exact ⟨by decide, by simp [ebnf], by decide⟩
  · rw [keywords_ebnf]
    decide

end TypedGrammar.Dialect
