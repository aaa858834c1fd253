import TypedGrammar.Proofs.PrintedLexeme

/-!
# Printed literals

A literal is printed between quotes, and scanned from its opening quote up to the quote that closes it.
With an escape the text comes back whatever it holds. Without one it comes back exactly if it lacks one of
the quotes: otherwise it is printed between quotes that it holds, and the first of them closes it.
-/

namespace TypedGrammar

/-- The printed text is scanned as the text from its opening quote on, up to its end, when `after` follows. -/
def Line.ScansBack (d : Dialect) (text : Line) (after : List Char) : Prop :=
  ∃ quote ∈ d.quotes, ∃ body, text.printLiteral d = quote :: body ∧
    d.scanLiteral quote (body ++ after) = .ok (.quotedLiteral text, (text.printLiteral d).length)

variable {d : Dialect} {quote escape : Char} {text : Line} {after : List Char}

namespace Dialect

/-- A printed character is read as itself. Behind the escape so are the quote and the escape. -/
lemma scanBody_escapeChar (hescape : isLineBreak escape = false) {c : Char}
    (hc : isLineBreak c = false) (n : ℕ) (rest : List Char) :
    scanBody quote (some escape) false n (Line.escapeChar (some escape) quote c ++ rest) =
      (scanBody quote (some escape) false
        (n + (Line.escapeChar (some escape) quote c).length) rest).map
          fun (body, length) => (c :: body, length) := by
  by_cases hspecial : c = quote ∨ c = escape
  · have hprint : Line.escapeChar (some escape) quote c = [escape, c] := if_pos hspecial
    rw [hprint, List.cons_append, List.singleton_append, scanBody, if_neg (by simp [hescape]),
      if_pos (by simp), scanBody, if_neg (by simp [hc]), if_neg (by simp), if_neg (by simp)]
    rfl
  · have hprint : Line.escapeChar (some escape) quote c = [c] := if_neg hspecial
    obtain ⟨hcquote, hcescape⟩ := not_or.mp hspecial
    rw [hprint, List.singleton_append, scanBody, if_neg (by simp [hc]),
      if_neg (by simp [Ne.symm hcescape]), if_neg (by simp [hcquote])]
    rfl

/-- Only the quote at the end closes a literal that is printed with an escape. -/
lemma scanBody_escaped (hquote : isLineBreak quote = false) (hescape : isLineBreak escape = false)
    (hne : quote ≠ escape) {body : List Char} (hbody : ∀ c ∈ body, isLineBreak c = false) (n : ℕ)
    (after : List Char) :
    scanBody quote (some escape) false n
        (body.flatMap (Line.escapeChar (some escape) quote) ++ quote :: after) =
      .ok (body, n + (body.flatMap (Line.escapeChar (some escape) quote)).length + 1) := by
  induction body generalizing n with
  | nil => simp [scanBody, hquote, Ne.symm hne]
  | cons c body ih =>
    obtain ⟨hc, hbody⟩ := List.forall_mem_cons.mp hbody
    rw [List.flatMap_cons, List.append_assoc, scanBody_escapeChar hescape hc, ih hbody,
      List.length_append, ← Nat.add_assoc n]
    rfl

end Dialect

namespace Line

lemma quoteFor_mem (h : d.quotes ≠ []) (text : List Char) : quoteFor d text ∈ d.quotes := by
  rw [quoteFor]
  cases hfind : d.quotes.find? (!text.contains ·) with
  | none =>
    obtain ⟨first, quotes, hquotes⟩ := List.exists_cons_of_ne_nil h
    simp [hquotes]
  | some quote => exact List.mem_of_find?_eq_some hfind

lemma printLiteral_eq_cons (d : Dialect) (text : Line) :
    text.printLiteral d = quoteFor d text.chars ::
      (text.chars.flatMap (escapeChar d.escape (quoteFor d text.chars)) ++
        [quoteFor d text.chars]) := rfl

lemma scansBack_iff (h : d.quotes ≠ []) : text.ScansBack d after ↔
    Dialect.scanBody (quoteFor d text.chars) d.escape false 1
      (text.chars.flatMap (escapeChar d.escape (quoteFor d text.chars)) ++
        quoteFor d text.chars :: after) = .ok (text.chars, (text.printLiteral d).length) := by
  have happend : text.chars.flatMap (escapeChar d.escape (quoteFor d text.chars)) ++
      quoteFor d text.chars :: after =
        text.chars.flatMap (escapeChar d.escape (quoteFor d text.chars)) ++
          [quoteFor d text.chars] ++ after := by simp
  rw [happend]
  constructor
  · rintro ⟨quote, _, body, hprint, hscan⟩
    obtain ⟨rfl, rfl⟩ := List.cons.inj ((printLiteral_eq_cons d text).symm.trans hprint)
    obtain ⟨line, hbody, hline⟩ := Dialect.scanLiteral_eq_ok_iff.mp hscan
    cases hline
    exact hbody
  · intro hbody
    exact ⟨_, quoteFor_mem h _, _, printLiteral_eq_cons d text,
      Dialect.scanLiteral_eq_ok_iff.mpr ⟨text, hbody, rfl⟩⟩

lemma scansBack_of_escape (h : d.quotes ≠ []) (hquotes : ∀ quote ∈ d.quotes, isLineBreak quote = false)
    (hd : d.escape = some escape) (hmem : escape ∉ d.quotes) (hescape : isLineBreak escape = false) :
    text.ScansBack d after := by
  have hquote := quoteFor_mem h text.chars
  rw [scansBack_iff h, hd, Dialect.scanBody_escaped (hquotes _ hquote) hescape
    (ne_of_mem_of_not_mem hquote hmem) (fun c hc => isLineBreak_eq_false hc), printLiteral_eq_cons, hd]
  simp [Nat.add_comm]

lemma scansBack_iff_of_no_escape (h : d.quotes ≠ [])
    (hquotes : ∀ quote ∈ d.quotes, isLineBreak quote = false) (hd : d.escape = none) :
    text.ScansBack d after ↔ ∃ quote ∈ d.quotes, quote ∉ text.chars := by
  have hplain : text.chars.flatMap (escapeChar none (quoteFor d text.chars)) = text.chars :=
    List.flatMap_singleton' _
  rw [scansBack_iff h, hd, hplain]
  constructor
  · intro hbody
    exact ⟨_, quoteFor_mem h _, Dialect.not_mem_of_scanBody hbody⟩
  · intro hlacks
    obtain ⟨hquote, hmem⟩ := quoteFor_spec hlacks
    rw [Dialect.scanBody_append (hquotes _ hquote) (fun c hc => isLineBreak_eq_false hc) hmem,
      printLiteral_eq_cons, hd, hplain]
    simp [Nat.add_comm]

/-- What is printed for a text is scanned as the text, whatever follows it: always where the escape is
neither a quote nor a line break, and without an escape exactly if some quote does not occur in the text. -/
theorem scansBack_printLiteral (h : d.quotes ≠ [])
    (hquotes : ∀ quote ∈ d.quotes, isLineBreak quote = false) (text : Line) (after : List Char) :
    (∀ escape, d.escape = some escape → escape ∉ d.quotes → isLineBreak escape = false →
      text.ScansBack d after) ∧
    (d.escape = none → (text.ScansBack d after ↔ ∃ quote ∈ d.quotes, quote ∉ text.chars)) :=
  ⟨fun _ hd hmem hescape => scansBack_of_escape h hquotes hd hmem hescape,
    scansBack_iff_of_no_escape h hquotes⟩

/-- The line oriented dialect with an ordinary letter for the escape. -/
def letterEscape : Dialect :=
  { Dialect.bnf with escape := some 'n' }

theorem scansBack_letterEscape :
    letterEscape.quotes ≠ [] ∧ (∀ quote ∈ letterEscape.quotes, isLineBreak quote = false) ∧
    (⟨"'n\"".toList, by decide⟩ : Line).ScansBack letterEscape "\"".toList ∧
    ¬ (⟨"'n\"".toList, by decide⟩ : Line).ScansBack .bnf "\"".toList := by
  have hbnf : ∀ quote ∈ Dialect.bnf.quotes, isLineBreak quote = false := by
    simpa using (by decide : (Dialect.bnf.quotes.all (!isLineBreak ·)) = true)
  have hquotes : ∀ quote ∈ letterEscape.quotes, isLineBreak quote = false := hbnf
  refine ⟨by decide, hquotes, ?_, ?_⟩
  · exact (scansBack_printLiteral (by decide) hquotes _ _).1 'n' rfl (by decide) (by decide)
  · exact mt ((scansBack_printLiteral (by decide) hbnf _ _).2 rfl).mp (by simp [Dialect.bnf])

end Line

end TypedGrammar
