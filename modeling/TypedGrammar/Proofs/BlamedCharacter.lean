import TypedGrammar.Proofs.LexerStep
import TypedGrammar.Proofs.NameLookup

/-!
# Blamed characters

The error of a lexer is where the character is that it blames. A line break is blamed where a scanner meets it,
so that no text with a line break is ever made a literal or a name: these have nothing to blame any more.
-/

namespace TypedGrammar

variable {d : Dialect} {text : List Char} {first : Char} {kind : LexErrorKind} {n : ℕ}

namespace Dialect

/-- What an error says of the text that begins at its place. -/
inductive Blames (d : Dialect) : LexErrorKind → List Char → Prop
  | illegalCharacter {c : Char} {text : List Char} : d.Blames (.illegalCharacter c) (c :: text)
  | embeddedLineBreak {c : Char} {text : List Char} (hc : isLineBreak c = true) :
      d.Blames .embeddedLineBreak (c :: text)
  | unterminatedLiteral {quote : Char} {text : List Char} (hquote : quote ∈ d.quotes)
      (htext : ∀ c ∈ text, isLineBreak c = false) : d.Blames .unterminatedLiteral (quote :: text)
  | unterminatedName {opening closing : Char} {text : List Char}
      (hbrackets : d.brackets = some (opening, closing))
      (htext : ∀ c ∈ text, isLineBreak c = false ∧ c ≠ closing) :
      d.Blames .unterminatedName (opening :: text)

/-! ### Literals -/

lemma scanBody_eq_error {quote : Char} {escape : Option Char} {escaped : Bool} {k : ℕ}
    (h : scanBody quote escape escaped n text = .error (kind, k)) :
    (kind = .unterminatedLiteral ∧ k = 0 ∧ ∀ c ∈ text, isLineBreak c = false) ∨
      (kind = .embeddedLineBreak ∧ ∃ j c after,
        k = n + j ∧ text.drop j = c :: after ∧ isLineBreak c = true) := by
  fun_induction scanBody quote escape escaped n text with
  | case1 =>
    cases h
    exact .inl ⟨rfl, rfl, by simp⟩
  | case2 escaped n c text hbreak =>
    cases h
    exact .inr ⟨rfl, 0, c, text, rfl, rfl, hbreak⟩
  | case3 escaped n c text hbreak _ ih =>
    rcases ih h with ⟨hkind, hk, htext⟩ | ⟨hkind, j, b, after, hk, hdrop, hb⟩
    · exact .inl ⟨hkind, hk, List.forall_mem_cons.mpr ⟨by simpa using hbreak, htext⟩⟩
    · exact .inr ⟨hkind, j + 1, b, after, by omega, hdrop, hb⟩
  | case4 => cases h
  | case5 escaped n c text hbreak _ _ ih =>
    cases hrest : scanBody quote escape false (n + 1) text with
    | ok rest => rw [hrest] at h; cases h
    | error error =>
      rw [hrest] at h
      cases h
      rcases ih hrest with ⟨hkind, hk, htext⟩ | ⟨hkind, j, b, after, hk, hdrop, hb⟩
      · exact .inl ⟨hkind, hk, List.forall_mem_cons.mpr ⟨by simpa using hbreak, htext⟩⟩
      · exact .inr ⟨hkind, j + 1, b, after, by omega, hdrop, hb⟩

lemma unbroken_of_scanBody {quote : Char} {escape : Option Char} {escaped : Bool}
    {body : List Char} {length : ℕ}
    (h : scanBody quote escape escaped n text = .ok (body, length)) :
    ∀ c ∈ body, isLineBreak c = false := by
  fun_induction scanBody quote escape escaped n text generalizing body with
  | case1 => cases h
  | case2 => cases h
  | case3 _ _ _ _ _ _ ih => exact ih h
  | case4 =>
    cases h
    simp
  | case5 escaped n c text hbreak _ _ ih =>
    cases hrest : scanBody quote escape false (n + 1) text with
    | error error => rw [hrest] at h; cases h
    | ok rest =>
      rw [hrest] at h
      cases h
      exact List.forall_mem_cons.mpr ⟨by simpa using hbreak, ih hrest⟩

/-- The body of a literal that was scanned is a line. -/
lemma exists_line_of_scanBody {quote : Char} {escape : Option Char} {body : List Char} {length : ℕ}
    (h : scanBody quote escape false n text = .ok (body, length)) :
    ∃ line, Line.ofText? body = .ok line := by
  have hbody : body.all (!isLineBreak ·) = true := by simpa using unbroken_of_scanBody h
  exact ⟨_, Line.ofText?_chars ⟨body, hbody⟩⟩

lemma blames_of_scanLiteral (hquote : first ∈ d.quotes)
    (h : d.scanLiteral first text = .error (kind, n)) : d.Blames kind ((first :: text).drop n) := by
  unfold scanLiteral at h
  cases hbody : scanBody first d.escape false 1 text with
  | ok result =>
    obtain ⟨body, length⟩ := result
    obtain ⟨line, hline⟩ := exists_line_of_scanBody hbody
    rw [hbody] at h
    simp only [bind, Except.bind, hline] at h
    cases h
  | error error =>
    rw [hbody] at h
    cases h
    rcases scanBody_eq_error hbody with ⟨rfl, rfl, htext⟩ | ⟨rfl, j, c, after, rfl, hdrop, hc⟩
    · exact .unterminatedLiteral hquote htext
    · rw [Nat.add_comm, List.drop_succ_cons, hdrop]
      exact .embeddedLineBreak hc

/-! ### Names -/

/-- What is taken for a name holds no line break. -/
lemma ofText?_ne_line_of_bracketed (closing : Char) (text : List Char) (error : LineError) :
    Name.ofText? (text.takeWhile fun c => !isLineBreak c && c != closing) ≠ .error (.line error) := by
  intro h
  obtain ⟨c, hc, hbreak⟩ := (Name.ofText?_eq_line_error_iff _).mp ⟨error, h⟩
  simpa [hbreak] using List.mem_takeWhile_imp hc

lemma ofText?_ne_line_of_bare (hfirst : isNameStart first = true) (text : List Char)
    (error : LineError) :
    Name.ofText? (first :: text.takeWhile isNameChar) ≠ .error (.line error) := by
  intro h
  obtain ⟨c, hc, hbreak⟩ := (Name.ofText?_eq_line_error_iff _).mp ⟨error, h⟩
  have hname : isNameChar c = true := by
    rcases List.mem_cons.mp hc with rfl | hc
    · simp only [isNameStart, isNameChar, Bool.or_eq_true] at hfirst ⊢
      exact .inl hfirst
    · exact List.mem_takeWhile_imp hc
  rw [isLineBreak_of_isNameChar hname] at hbreak
  cases hbreak

lemma nameError_of_ne_line {error : StructureError} (h : ∀ lineError, error ≠ .line lineError)
    (c : Char) : nameError c error = .illegalCharacter c := by
  cases error with
  | line lineError => exact absurd rfl (h lineError)
  | _ => rfl

lemma blames_of_scanBracketed {closing : Char} (hbrackets : d.brackets = some (first, closing))
    (h : scanBracketed closing text = .error (kind, n)) : d.Blames kind ((first :: text).drop n) := by
  have hline := ofText?_ne_line_of_bracketed closing text
  have htext := List.takeWhile_append_dropWhile
    (p := fun c => !isLineBreak c && c != closing) (l := text)
  have hhead := List.head?_dropWhile_not (fun c => !isLineBreak c && c != closing) text
  unfold scanBracketed at h
  dsimp only at h
  split at h
  · rename_i hdrop
    cases h
    rw [drop_takeWhile] at hdrop
    rw [hdrop, List.append_nil, List.takeWhile_eq_self_iff] at htext
    exact .unterminatedName hbrackets fun c hc => by simpa using htext c hc
  · rename_i c after hdrop
    rw [drop_takeWhile] at hdrop
    rw [hdrop] at hhead
    split at h
    · rename_i hbreak
      cases h
      rw [List.drop_succ_cons, drop_takeWhile, hdrop]
      exact .embeddedLineBreak hbreak
    · rename_i hbreak
      obtain rfl : c = closing := by simpa [hbreak] using hhead
      split at h
      · cases h
      · rename_i error herror
        cases h
        rw [nameError_of_ne_line fun lineError hline' => hline lineError (by rw [herror, hline']),
          List.drop_succ_cons, drop_takeWhile, hdrop]
        exact .illegalCharacter

lemma blames_of_scanBare (h : d.scanBare first text = .error (kind, n)) :
    d.Blames kind ((first :: text).drop n) := by
  unfold scanBare at h
  split at h
  · rename_i hfirst
    dsimp only at h
    split at h
    · cases h
    · split at h
      · cases h
      · rename_i error herror
        cases h
        rw [nameError_of_ne_line fun lineError hline =>
          ofText?_ne_line_of_bare hfirst text lineError (by rw [herror, hline])]
        exact .illegalCharacter
  · cases h
    exact .illegalCharacter

/-- An error blames the text at its place. -/
theorem blames_of_scan (h : d.scan text = .error (kind, n)) : d.Blames kind (text.drop n) := by
  cases text with
  | nil => cases h
  | cons first text =>
    rw [scan] at h
    split at h
    · cases h
    · split at h
      · rename_i hquote
        exact blames_of_scanLiteral hquote h
      · split at h
        · rename_i opening closing hbrackets
          split at h
          · rename_i hfirst
            subst hfirst
            exact blames_of_scanBracketed hbrackets h
          · exact blames_of_scanBare h
        · exact blames_of_scanBare h

end Dialect

/-! ### Places in the source -/

/-- The text begins in the source after so many bytes. -/
def BeginsAt (source : List Char) (offset : ℕ) (text : List Char) : Prop :=
  ∃ before, source = before ++ text ∧ offset = byteLength before

variable {source : List Char} {cursor : Cursor}

lemma Cursor.beginsAt_skip (h : BeginsAt source cursor.position.offset cursor.rest) (n : ℕ) :
    BeginsAt source (cursor.skip n).position.offset (cursor.skip n).rest := by
  obtain ⟨before, hsource, hoffset⟩ := h
  refine ⟨before ++ cursor.rest.take n, ?_, ?_⟩
  · rw [List.append_assoc, Cursor.rest_skip, List.take_append_drop, hsource]
  · rw [Cursor.skip, Position.advance_offset, hoffset, byteLength_append]

lemma Dialect.beginsAt_skipTrivia (crossed : Option Position)
    (h : BeginsAt source cursor.position.offset cursor.rest) :
    BeginsAt source (d.skipTrivia crossed cursor).2.position.offset
      (d.skipTrivia crossed cursor).2.rest := by
  fun_induction skipTrivia d crossed cursor with
  | case1 => exact h
  | case2 crossed cursor t n _ ih => exact ih (Cursor.beginsAt_skip h n)

namespace Lexer

/-- The lexer is at a place of the source. -/
structure IsAt (l : Lexer) (d : Dialect) (source : List Char) : Prop where
  dialect : l.dialect = d
  cursor : BeginsAt source l.cursor.position.offset l.cursor.rest

lemma IsAt.of_reads {l after : Lexer} {result : Except LexError Token} (h : l.IsAt d source)
    (hreads : l.Reads result after) : after.IsAt d source ∧
      ∀ error, result = .error error →
        ∃ text, BeginsAt source error.position.offset text ∧ d.Blames error.kind text := by
  obtain ⟨rfl, hcursor⟩ := h
  have hskipped := Dialect.beginsAt_skipTrivia (d := l.dialect) none hcursor
  cases hreads with
  | ruleEnd hskip _ =>
    rw [hskip] at hskipped
    exact ⟨⟨rfl, hskipped⟩, by simp⟩
  | endOfInput hskip _ =>
    rw [hskip] at hskipped
    exact ⟨⟨rfl, hskipped⟩, by simp⟩
  | token hskip _ _ =>
    rw [hskip] at hskipped
    exact ⟨⟨rfl, Cursor.beginsAt_skip hskipped _⟩, by simp⟩
  | error hskip hrest hscan =>
    rw [hskip] at hskipped
    refine ⟨⟨rfl, hskipped⟩, ?_⟩
    rintro _ ⟨⟩
    rw [← hrest] at hscan
    exact ⟨_, Cursor.beginsAt_skip hskipped _, Dialect.blames_of_scan hscan⟩

lemma IsAt.next? {l : Lexer} (h : l.IsAt d source) : l.next?.2.IsAt d source ∧
    ∀ error, l.next?.1 = some (.error error) →
      ∃ text, BeginsAt source error.position.offset text ∧ d.Blames error.kind text := by
  unfold Lexer.next?
  split
  · exact ⟨h, by simp⟩
  · simpa using h.of_reads l.reads_read

lemma IsAt.after {l : Lexer} (h : l.IsAt d source) (n : ℕ) : (l.after n).IsAt d source := by
  induction n generalizing l with
  | zero => exact h
  | succ n ih => exact ih h.next?.1

lemma isAt_ofSource (d : Dialect) (source : List Char) : (ofSource d source).IsAt d source :=
  ⟨rfl, [], rfl, rfl⟩

/-- However often a lexer is called, an error that it yields blames the text of the source at its place. What
is scanned as a literal is a line, and what is taken for a name holds no line break, whether it stands in
brackets or not. -/
theorem error_blames (d : Dialect) (source : List Char) :
    (∀ n error, ((ofSource d source).after n).next?.1 = some (.error error) →
      ∃ text, BeginsAt source error.position.offset text ∧ d.Blames error.kind text) ∧
    (∀ quote text body length, Dialect.scanBody quote d.escape false 1 text = .ok (body, length) →
      ∃ line, Line.ofText? body = .ok line) ∧
    (∀ (closing : Char) (text : List Char) (error : LineError),
      Name.ofText? (text.takeWhile fun c => !isLineBreak c && c != closing) ≠
        .error (.line error)) ∧
    ∀ (first : Char) (text : List Char) (error : LineError), isNameStart first = true →
      Name.ofText? (first :: text.takeWhile isNameChar) ≠ .error (.line error) := by
  refine ⟨fun n => ((isAt_ofSource d source).after n).next?.2, ?_, ?_, ?_⟩
  · intro quote text body length h
    exact Dialect.exists_line_of_scanBody h
  · exact Dialect.ofText?_ne_line_of_bracketed
  · intro first text error hfirst
    exact Dialect.ofText?_ne_line_of_bare hfirst text error

theorem error_blames_unterminated :
    ((ofSource .bnf "é ::= \"b".toList).after 2).next?.1 =
      some (.error ⟨.unterminatedLiteral, ⟨7, 1, 7⟩⟩) ∧
    ∃ text, BeginsAt "é ::= \"b".toList 7 text ∧ Dialect.bnf.Blames .unterminatedLiteral text := by
  have herror : ((ofSource .bnf "é ::= \"b".toList).after 2).next?.1 =
      some (.error ⟨.unterminatedLiteral, ⟨7, 1, 7⟩⟩) := by decide +kernel
  exact ⟨herror, (error_blames .bnf _).1 2 _ herror⟩

end Lexer

end TypedGrammar
