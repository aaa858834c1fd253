import Mathlib.Data.List.TakeWhile
import TypedGrammar.Proofs.WrittenName
import TypedGrammar.Source.TokenStream

/-!
# What a lexer reads

Only some names and literals can be read at all. The fragments of a name are words, and without
brackets they are alphanumeric. Where literals have no escape, none holds the quote that opened it.
-/

namespace TypedGrammar

open Unicode

/-- Whether a name of the source can hold the character in a fragment. -/
def Dialect.InName (d : Dialect) (c : Char) : Prop :=
  isAlphanumeric c = true ∨ ∃ opening closing, d.brackets = some (opening, closing) ∧ c ≠ closing

/-- What tokens of the dialect can hold. -/
def Lexeme.Readable (d : Dialect) : Lexeme → Prop
  | .identifier name => ∀ fragment ∈ name.fragments,
      Name.IsWord fragment.chars ∧ ∀ c ∈ fragment.chars, d.InName c
  | .quotedLiteral text => d.escape = none → ∃ quote ∈ d.quotes, quote ∉ text.chars
  | .sequenceSeparator => d.concatenation.isSome
  | _ => True

lemma isAlphanumeric_of_isNameChar {c : Char} (h : isNameChar c = true)
    (hseparator : Name.isSeparator c = false) : isAlphanumeric c = true := by
  simp only [isNameChar, Name.isSeparator, Bool.or_eq_true, Bool.or_eq_false_iff] at h hseparator
  rcases h with (h | h) | h
  · exact h
  · rw [h] at hseparator
    cases hseparator.1.2
  · rw [h] at hseparator
    cases hseparator.2

namespace Dialect

/-- What delimiters stand for. Only some dialects have one between parts. -/
lemma lexeme_of_mem_keywords {d : Dialect} {keyword : Lexeme × List Char}
    (h : keyword ∈ d.keywords) :
    keyword.1 ∈ [.ruleTerminator, .ruleAssign, .alternativeSeparator, .epsilonMarker] ∨
      keyword.1 = .sequenceSeparator ∧ d.concatenation.isSome := by
  simp only [keywords, List.append_assoc, List.mem_append, List.mem_cons, List.not_mem_nil,
    or_false] at h
  rcases h with h | (rfl | rfl) | h | h
  · split at h
    · obtain rfl := List.mem_singleton.mp h
      exact .inl (by simp)
    · cases h
  · exact .inl (by simp)
  · exact .inl (by simp)
  · split at h
    · rename_i text htext
      obtain rfl := List.mem_singleton.mp h
      exact .inr ⟨rfl, Option.isSome_of_eq_some htext⟩
    · cases h
  · split at h
    · cases h
    · obtain rfl := List.mem_singleton.mp h
      exact .inl (by simp)

lemma readable_of_mem_keywords {d : Dialect} {keyword : Lexeme × List Char}
    (h : keyword ∈ d.keywords) : keyword.1.Readable d := by
  rcases lexeme_of_mem_keywords h with hmem | ⟨hseparator, hsome⟩
  · generalize keyword.1 = lexeme at hmem
    simp only [List.mem_cons, List.not_mem_nil, or_false] at hmem
    rcases hmem with rfl | rfl | rfl | rfl <;> exact trivial
  · rw [hseparator]
    exact hsome

lemma readable_of_keyword? {d : Dialect} {text : List Char} {lexeme : Lexeme} {n : Nat}
    (h : d.keyword? text = some (lexeme, n)) : lexeme.Readable d := by
  obtain ⟨keyword, hfind, hkeyword⟩ := Option.map_eq_some_iff.mp h
  obtain ⟨rfl, _⟩ := Prod.mk.inj hkeyword
  exact readable_of_mem_keywords (List.mem_of_find?_eq_some hfind)

/-- Without an escape the quote ends the literal wherever it stands. -/
lemma not_mem_of_scanBody {quote : Char} {n length : Nat} {text body : List Char}
    (h : scanBody quote none false n text = .ok (body, length)) : quote ∉ body := by
  induction text generalizing n length body with
  | nil => cases h
  | cons c text ih =>
    rw [scanBody] at h
    split at h
    · cases h
    · rw [if_neg (by simp)] at h
      split at h
      · cases h
        simp
      · rename_i hc
        cases hrest : scanBody quote none false (n + 1) text with
        | error error => rw [hrest] at h; cases h
        | ok rest =>
          rw [hrest] at h
          cases h
          have hne : quote ≠ c := by
            rintro rfl
            simp at hc
          simp [hne, ih hrest]

lemma scanLiteral_eq_ok_iff {d : Dialect} {quote : Char} {text : List Char} {lexeme : Lexeme}
    {n : Nat} :
    d.scanLiteral quote text = .ok (lexeme, n) ↔
      ∃ line : Line, scanBody quote d.escape false 1 text = .ok (line.chars, n) ∧
        lexeme = .quotedLiteral line := by
  rw [scanLiteral]
  rcases scanBody quote d.escape false 1 text with error | ⟨body, length⟩
  · constructor
    · intro h
      cases h
    · rintro ⟨line, h, _⟩
      cases h
  · simp only [bind, Except.bind]
    cases hline : Line.ofText? body with
    | ok line =>
      obtain rfl := Line.chars_of_ofText? hline
      constructor
      · intro h
        cases h
        exact ⟨line, rfl, rfl⟩
      · rintro ⟨other, h, rfl⟩
        obtain ⟨hchars, rfl⟩ := Prod.mk.inj (Except.ok.inj h)
        rw [Line.ext hchars]
    | error error =>
      constructor
      · intro h
        cases h
      · rintro ⟨line, h, _⟩
        obtain ⟨rfl, _⟩ := Prod.mk.inj (Except.ok.inj h)
        cases (Line.ofText?_chars line).symm.trans hline

lemma readable_of_scanLiteral {d : Dialect} {quote : Char} (hquote : quote ∈ d.quotes)
    {text : List Char} {lexeme : Lexeme} {n : Nat}
    (h : d.scanLiteral quote text = .ok (lexeme, n)) : lexeme.Readable d := by
  obtain ⟨line, hbody, rfl⟩ := scanLiteral_eq_ok_iff.mp h
  intro hescape
  rw [hescape] at hbody
  exact ⟨quote, hquote, not_mem_of_scanBody hbody⟩

lemma readable_of_scanBracketed {d : Dialect} {opening closing : Char}
    (hbrackets : d.brackets = some (opening, closing)) {text : List Char} {lexeme : Lexeme}
    {n : Nat} (h : scanBracketed closing text = .ok (lexeme, n)) :
    lexeme.Readable d := by
  unfold scanBracketed at h
  dsimp only at h
  split at h
  · cases h
  · split at h
    · cases h
    · split at h
      · rename_i name hname
        cases h
        intro fragment hfragment
        obtain ⟨hword, hmem⟩ := Name.fragment_of_ofText? hname hfragment
        refine ⟨hword, fun c hc => .inr ⟨opening, closing, hbrackets, ?_⟩⟩
        have := List.mem_takeWhile_imp (hmem c hc)
        simp only [Bool.and_eq_true, bne_iff_ne] at this
        exact this.2
      · cases h

lemma readable_of_scanBare {d : Dialect} {first : Char} {text : List Char} {lexeme : Lexeme}
    {n : Nat} (h : d.scanBare first text = .ok (lexeme, n)) :
    lexeme.Readable d := by
  unfold scanBare at h
  split at h
  · rename_i hfirst
    dsimp only at h
    split at h
    · cases h
      exact trivial
    · split at h
      · rename_i name hname
        cases h
        intro fragment hfragment
        obtain ⟨hword, hmem⟩ := Name.fragment_of_ofText? hname hfragment
        refine ⟨hword, fun c hc => .inl (isAlphanumeric_of_isNameChar ?_ (hword.unseparated c hc))⟩
        rcases List.mem_cons.mp (hmem c hc) with rfl | hc
        · simp only [isNameStart, isNameChar, Bool.or_eq_true] at hfirst ⊢
          exact .inl hfirst
        · exact List.mem_takeWhile_imp hc
      · cases h
  · cases h

theorem readable_of_scan {d : Dialect} {text : List Char} {lexeme : Lexeme} {n : Nat}
    (h : d.scan text = .ok (lexeme, n)) : lexeme.Readable d := by
  cases text with
  | nil =>
    cases h
    exact trivial
  | cons first text =>
    rw [scan] at h
    split at h
    · rename_i token hkeyword
      cases h
      exact readable_of_keyword? hkeyword
    · split at h
      · rename_i hquote
        exact readable_of_scanLiteral hquote h
      · split at h
        · rename_i opening closing hbrackets
          split at h
          · exact readable_of_scanBracketed hbrackets h
          · exact readable_of_scanBare h
        · exact readable_of_scanBare h

end Dialect

namespace Lexer

lemma dialect_read (l : Lexer) : l.read.2.dialect = l.dialect := by
  rw [read_of_skipTrivia rfl, readFrom]
  split
  · rfl
  · split <;> rfl

lemma readable_of_read {l : Lexer} {token : Token} (h : l.read.1 = .ok token) :
    token.lexeme.Readable l.dialect := by
  rw [read_of_skipTrivia rfl, readFrom] at h
  split at h
  · cases h
    exact trivial
  · split at h
    · cases h
    · cases h
      exact trivial
    · rename_i lexeme n _ hscan
      cases h
      exact Dialect.readable_of_scan hscan

lemma readable_of_next? {l after : Lexer} {token : Token}
    (h : l.next? = (some (.ok token), after)) :
    token.lexeme.Readable l.dialect ∧ after.dialect = l.dialect := by
  unfold next? at h
  split at h
  · cases h
  · obtain ⟨hread, rfl⟩ := Prod.mk.inj h
    exact ⟨readable_of_read (Option.some.inj hread), dialect_read l⟩

/-- Every token of the stream is readable, and none of them is the end of the input. -/
theorem readable_of_mem_stream {l : Lexer} {token : Token} (h : token ∈ l.stream.tokens) :
    token.lexeme.Readable l.dialect ∧ token.lexeme ≠ .endOfInput := by
  fun_induction stream l with
  | case1 => cases h
  | case2 => cases h
  | case3 => cases h
  | case4 l first after hnext hfirst hsize ih =>
    obtain ⟨hreadable, hdialect⟩ := readable_of_next? hnext
    rcases List.mem_cons.mp h with rfl | h
    · exact ⟨hreadable, hfirst⟩
    · rw [← hdialect]
      exact ih h
  | case5 l only after hnext honly hsize =>
    obtain rfl := List.mem_singleton.mp h
    exact ⟨(readable_of_next? hnext).1, honly⟩

end Lexer

end TypedGrammar
