import TypedGrammar.Proofs.NameLookup

/-!
# Spelled names

A name is spelled by writing its pieces with spacing between them: white space within a line,
underscores and hyphens. Only some of these characters are separators. Spellings with separators
alone write the same name, however many and whichever they are. A spelling with any other spacing
does not, as that is taken for part of a word.
-/

namespace TypedGrammar.Name

/-- Whether the character may stand between the pieces of a name. -/
def isSpacing (c : Char) : Bool :=
  Unicode.isWhiteSpace c && !isLineBreak c || c == '_' || c == '-'

/-- The text is made of the pieces, with at least one character of the kind between any two. -/
inductive SpelledWith (p : Char → Bool) : List (List Char) → List Char → Prop
  | single (piece : List Char) : SpelledWith p [piece] piece
  | cons {pieces : List (List Char)} {text : List Char} (piece : List Char) {spacing : List Char}
      (hspacing : spacing ≠ []) (hkind : ∀ c ∈ spacing, p c = true)
      (htext : SpelledWith p pieces text) :
      SpelledWith p (piece :: pieces) (piece ++ (spacing ++ text))

variable {p q : Char → Bool} {pieces : List (List Char)} {s t text : List Char} {c closing : Char}

lemma isLineBreak_of_isSpacing (h : isSpacing c = true) : isLineBreak c = false := by
  simp only [isSpacing, Bool.or_eq_true, Bool.and_eq_true, Bool.not_eq_true', beq_iff_eq] at h
  rcases h with (⟨_, h⟩ | rfl) | rfl
  · exact h
  · decide
  · decide

/-! ### Characters of a spelling -/

lemma SpelledWith.mem (h : SpelledWith p pieces text) (hc : c ∈ text) :
    (∃ piece ∈ pieces, c ∈ piece) ∨ p c = true := by
  induction h with
  | single piece => exact .inl ⟨piece, List.mem_singleton_self piece, hc⟩
  | cons piece _ hkind _ ih =>
    rcases List.mem_append.mp hc with hc | hc
    · exact .inl ⟨piece, List.mem_cons_self, hc⟩
    · rcases List.mem_append.mp hc with hc | hc
      · exact .inr (hkind c hc)
      · exact (ih hc).imp_left fun ⟨other, hother, hc⟩ => ⟨other, List.mem_cons_of_mem piece hother, hc⟩

lemma SpelledWith.mem_of_mem_piece (h : SpelledWith p pieces text) {piece : List Char}
    (hpiece : piece ∈ pieces) (hc : c ∈ piece) : c ∈ text := by
  induction h with
  | single => rwa [← List.mem_singleton.mp hpiece]
  | cons _ _ _ _ ih =>
    rcases List.mem_cons.mp hpiece with rfl | hpiece
    · exact List.mem_append_left _ hc
    · exact List.mem_append_right _ (List.mem_append_right _ (ih hpiece))

lemma SpelledWith.imp (h : SpelledWith p pieces text) (hkind : ∀ c ∈ text, p c = true → q c = true) :
    SpelledWith q pieces text := by
  induction h with
  | single piece => exact .single piece
  | cons piece hspacing hp _ ih =>
    refine .cons piece hspacing (fun c hc => hkind c ?_ (hp c hc)) (ih fun c hc => hkind c ?_)
    · exact List.mem_append_right _ (List.mem_append_left _ hc)
    · exact List.mem_append_right _ (List.mem_append_right _ hc)

/-! ### Words of a spelling -/

lemma words_append_cons (hc : isSeparator c = true) (before after : List Char) :
    words (before ++ c :: after) = words before ++ words after := by
  rw [words, List.splitOnP_append_cons _ _ hc, List.flatMap_append]
  rfl

lemma words_append_spacing {spacing : List Char} (hspacing : spacing ≠ [])
    (h : ∀ c ∈ spacing, isSeparator c = true) (before after : List Char) :
    words (before ++ (spacing ++ after)) = words before ++ words after := by
  induction spacing generalizing before with
  | nil => exact absurd rfl hspacing
  | cons c spacing ih =>
    rw [List.cons_append, words_append_cons (h c List.mem_cons_self)]
    cases spacing with
    | nil => rfl
    | cons =>
      have hrest := ih (List.cons_ne_nil _ _) (List.forall_mem_of_forall_mem_cons h) []
      exact congrArg (words before ++ ·) hrest

/-- Separators add nothing to the words of the pieces. -/
lemma SpelledWith.words_eq (h : SpelledWith isSeparator pieces text) :
    words text = pieces.flatMap words := by
  induction h with
  | single piece => rw [List.flatMap_singleton]
  | cons piece hspacing hkind _ ih =>
    rw [words_append_spacing hspacing hkind, ih, List.flatMap_cons]

lemma ofText?_congr (h : words t = words s) : ofText? t = ofText? s := by
  rw [ofText?, ofText?, h]

/-- A spelling writes the name that separators spell exactly if it has no other spacing. -/
theorem ofText?_eq_iff (hpieces : ∀ piece ∈ pieces, ∀ c ∈ piece, isSpacing c = false ∧ isLineBreak c = false)
    (hs : SpelledWith isSeparator pieces s) (ht : SpelledWith isSpacing pieces t) :
    ofText? t = ofText? s ↔ ∀ c ∈ t, isSpacing c = true → isSeparator c = true := by
  constructor
  · intro h c hc hspacing
    by_contra hseparator
    rw [Bool.not_eq_true] at hseparator
    have hlines : ∀ b ∈ t, isLineBreak b = false := by
      intro b hb
      rcases ht.mem hb with ⟨piece, hpiece, hb⟩ | hb
      · exact (hpieces piece hpiece b hb).2
      · exact isLineBreak_of_isSpacing hb
    obtain ⟨name, hname⟩ := (exists_ofText?_iff t).mpr ⟨hlines, c, hc, hseparator⟩
    have hwords : words t = words s := by
      rw [← ofText?_eq_ok_iff.mp hname, ofText?_eq_ok_iff.mp (h.symm.trans hname)]
    obtain ⟨word, hword, hmem⟩ := exists_mem_words hc hseparator
    rw [hwords] at hword
    -- The character is in a word, and so in the other spelling, where it can only be of a piece.
    rcases hs.mem (mem_of_mem_words hword hmem).1 with ⟨piece, hpiece, hmem⟩ | hc
    · rw [(hpieces piece hpiece c hmem).1] at hspacing
      cases hspacing
    · rw [hseparator] at hc
      cases hc
  · intro h
    exact ofText?_congr ((ht.imp h).words_eq.trans hs.words_eq.symm)

end TypedGrammar.Name
