import Mathlib.Data.List.TakeWhile
import TypedGrammar.Source.Position

/-!
# Positions after a text

`Position.afterText` is the position that the text before it determines by itself: its bytes, its line
breaks and what follows the last of them. Advancing piece by piece leads to the same position, as long as
no piece ends between a carriage return and its line feed.
-/

namespace TypedGrammar

/-- Number of line breaks in the text. A carriage return and the line feed after it are one. -/
def lineBreaks : List Char → Nat
  | '\r' :: '\n' :: text => lineBreaks text + 1
  | '\r' :: text => lineBreaks text + 1
  | '\n' :: text => lineBreaks text + 1
  | _ :: text => lineBreaks text
  | [] => 0

/-- What follows the last line break of the text. -/
def lastLine (text : List Char) : List Char :=
  (text.reverse.takeWhile (!isLineBreak ·)).reverse

/-- The position after the text when it begins the source. -/
def Position.afterText (text : List Char) : Position :=
  ⟨byteLength text, 1 + lineBreaks text, 1 + (lastLine text).length⟩

/-- No line break is cut in two between the texts. -/
def Uncut (before after : List Char) : Prop :=
  before.getLast? = some '\r' → after.head? ≠ some '\n'

/-- The position is the one after some first characters of the source, and no line break is cut there. -/
def Position.IsIn (p : Position) (source : List Char) : Prop :=
  ∃ before after, source = before ++ after ∧ Uncut before after ∧ p = .afterText before

variable {before after text chunk : List Char} {c : Char}

/-! ### Uncut texts -/

lemma uncut_nil_left (after : List Char) : Uncut [] after := by
  intro h
  simp at h

lemma uncut_of_unbroken (h : ∀ c ∈ before, isLineBreak c = false) : Uncut before after := by
  intro hlast
  exact absurd (h '\r' (List.mem_of_getLast? hlast)) (by decide)

lemma uncut_cons_iff : Uncut (c :: before) after ↔
    Uncut before after ∧ (before = [] → c = '\r' → after.head? ≠ some '\n') := by
  unfold Uncut
  cases before with
  | nil => simp
  | cons b before => simp [List.getLast?_cons_cons]

lemma Uncut.append_left (h : Uncut chunk after) (hbefore : Uncut before (chunk ++ after)) :
    Uncut (before ++ chunk) after := by
  unfold Uncut at *
  cases chunk with
  | nil => simpa using hbefore
  | cons c chunk => simpa [List.getLast?_append] using h

lemma Uncut.of_append_right (h : Uncut before (chunk ++ after)) : Uncut before chunk := by
  unfold Uncut at *
  cases chunk with
  | nil => simp
  | cons c chunk => simpa using h

/-! ### Lines of a text -/

lemma lineBreaks_cons (c : Char) (text : List Char) : lineBreaks (c :: text) =
    (if c = '\n' ∨ (c = '\r' ∧ text.head? ≠ some '\n') then 1 else 0) + lineBreaks text := by
  by_cases hcr : c = '\r'
  · subst hcr
    cases text with
    | nil => simp [lineBreaks]
    | cons d text =>
      by_cases hlf : d = '\n'
      · subst hlf
        simp [lineBreaks]
      · rw [lineBreaks]
        · simp [hlf, Nat.add_comm]
        · simpa using hlf
  · by_cases hlf : c = '\n'
    · subst hlf
      simp [lineBreaks, Nat.add_comm]
    · simp [lineBreaks, hcr, hlf]

lemma lineBreaks_append (h : Uncut before after) :
    lineBreaks (before ++ after) = lineBreaks before + lineBreaks after := by
  induction before with
  | nil => simp [lineBreaks]
  | cons c before ih =>
    obtain ⟨hbefore, hc⟩ := uncut_cons_iff.mp h
    rw [List.cons_append, lineBreaks_cons, lineBreaks_cons, ih hbefore, Nat.add_assoc]
    cases before with
    | nil =>
      have hcr := hc rfl
      simp only [List.nil_append, List.head?_nil]
      by_cases hc : c = '\r' <;> simp_all
    | cons b before => simp

lemma lastLine_append (a b : List Char) :
    lastLine (a ++ b) = if b.any isLineBreak then lastLine b else lastLine a ++ b := by
  unfold lastLine
  rw [List.reverse_append]
  split
  · rename_i hbreak
    have hshort : (b.reverse.takeWhile (!isLineBreak ·)).length ≠ b.reverse.length := by
      intro hlength
      have hall := List.takeWhile_eq_self_iff.mp ((List.takeWhile_prefix _).eq_of_length hlength)
      obtain ⟨c, hc, hline⟩ := List.any_eq_true.mp hbreak
      simpa [hline] using hall c (List.mem_reverse.mpr hc)
    rw [List.takeWhile_append, if_neg hshort]
  · rename_i hbreak
    have hall : ∀ c ∈ b.reverse, (!isLineBreak c) = true := by
      intro c hc
      simp only [List.any_eq_true, not_exists, not_and] at hbreak
      simpa using hbreak c (List.mem_reverse.mp hc)
    rw [List.takeWhile_append_of_pos hall, List.reverse_append, List.reverse_reverse]

namespace Position

lemma advance_line (p : Position) (text : List Char) :
    (p.advance text).line = p.line + lineBreaks text := by
  induction text generalizing p with
  | nil => rfl
  | cons c text ih =>
    rw [advance, ih, lineBreaks_cons, step]
    split
    · simp [Nat.add_assoc]
    · split <;> simp

lemma advance_column (p : Position) (text : List Char) : (p.advance text).column =
    if text.any isLineBreak then 1 + (lastLine text).length else p.column + text.length := by
  induction text generalizing p with
  | nil => rfl
  | cons c text ih =>
    rw [advance, ih, ← List.singleton_append, lastLine_append]
    by_cases hbreak : text.any isLineBreak = true
    · simp [hbreak]
    · have hhead : text.head? ≠ some '\n' := by
        intro hhead
        exact hbreak (List.any_eq_true.mpr ⟨'\n', List.mem_of_head? hhead, rfl⟩)
      by_cases hc : isLineBreak c = true
      · have hstep : (p.step c text).column = 1 := by
          rw [step, if_pos]
          simp only [isLineBreak, Bool.or_eq_true, beq_iff_eq] at hc
          exact hc.imp_right fun hcr => ⟨hcr, hhead⟩
        simp [hbreak, hc, hstep, lastLine]
      · have hstep : (p.step c text).column = p.column + 1 := by
          simp only [isLineBreak, Bool.or_eq_true, beq_iff_eq, not_or] at hc
          simp [step, hc]
        simp only [hbreak, hc, hstep, List.any_append, List.any_cons, List.any_nil, Bool.or_self,
          Bool.false_eq_true, if_false, List.length_append, List.length_singleton]
        omega

/-- Advancing over a text leads to the position that all text up to there determines. -/
theorem advance_afterText (h : Uncut before text) :
    (afterText before).advance text = afterText (before ++ text) := by
  have hoffset := advance_offset (afterText before) text
  have hline := advance_line (afterText before) text
  have hcolumn := advance_column (afterText before) text
  have hbytes : ((afterText before).advance text).offset = byteLength (before ++ text) := by
    rw [hoffset, byteLength_append, afterText]
  have hlines : ((afterText before).advance text).line = 1 + lineBreaks (before ++ text) := by
    rw [hline, lineBreaks_append h, afterText, Nat.add_assoc]
  have hcolumns : ((afterText before).advance text).column =
      1 + (lastLine (before ++ text)).length := by
    rw [hcolumn, lastLine_append, afterText]
    split
    · rfl
    · rw [List.length_append, Nat.add_assoc]
  calc (afterText before).advance text
      = ⟨((afterText before).advance text).offset, ((afterText before).advance text).line,
          ((afterText before).advance text).column⟩ := rfl
    _ = afterText (before ++ text) := by rw [hbytes, hlines, hcolumns, afterText]

end Position

end TypedGrammar
