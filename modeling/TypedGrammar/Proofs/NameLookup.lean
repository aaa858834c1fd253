import Mathlib.Data.Set.List
import TypedGrammar.Compilation
import TypedGrammar.Proofs.ClosedGrammar
import TypedGrammar.Proofs.PrintedGrammar

/-!
# Looking up written names

A text writes a name unless it holds a line break or nothing but separators, and a name whose fragments are
words is written by joining them with any separator. All names of a grammar that was parsed are such, so that
each rule is found by its name however the words are joined.
-/

namespace TypedGrammar

namespace Name

variable {text : List Char} {c : Char}

/-! ### Words of a text -/

lemma exists_mem_splitOnP {α : Type} {p : α → Bool} {l : List α} {x : α} (hx : x ∈ l)
    (hp : p x = false) : ∃ piece ∈ l.splitOnP p, x ∈ piece := by
  induction l with
  | nil => cases hx
  | cons y l ih =>
    obtain ⟨first, rest, hsplit⟩ := List.exists_cons_of_ne_nil (List.splitOnP_ne_nil p l)
    rw [List.splitOnP_cons_eq_if_modifyHead, hsplit, List.modifyHead_cons]
    rw [hsplit] at ih
    rcases List.mem_cons.mp hx with rfl | hx
    · rw [if_neg (by simp [hp])]
      exact ⟨_, List.mem_cons_self, List.mem_cons_self⟩
    · obtain ⟨piece, hpiece, hmem⟩ := ih hx
      split
      · exact ⟨piece, List.mem_cons_of_mem [] hpiece, hmem⟩
      · rcases List.mem_cons.mp hpiece with rfl | hpiece
        · exact ⟨_, List.mem_cons_self, List.mem_cons_of_mem y hmem⟩
        · exact ⟨piece, List.mem_cons_of_mem _ hpiece, hmem⟩

/-- Only separators are lost when a text is split. -/
lemma exists_mem_words (hc : c ∈ text) (hseparator : isSeparator c = false) :
    ∃ word ∈ words text, c ∈ word := by
  obtain ⟨piece, hpiece, hmem⟩ := exists_mem_splitOnP hc hseparator
  rw [← List.flatten_splitBy (fun previous c => !startsWord previous c) piece] at hmem
  obtain ⟨word, hword, hmem⟩ := List.mem_flatten.mp hmem
  exact ⟨word, List.mem_flatMap.mpr ⟨piece, hpiece, hword⟩, hmem⟩

lemma words_eq_nil_iff : words text = [] ↔ ∀ c ∈ text, isSeparator c = true := by
  constructor
  · intro h c hc
    by_contra hseparator
    obtain ⟨word, hword, _⟩ := exists_mem_words hc (by simpa using hseparator)
    rw [h] at hword
    cases hword
  · intro h
    refine List.eq_nil_iff_forall_not_mem.mpr fun word hword => ?_
    obtain ⟨c, hc⟩ := List.exists_mem_of_ne_nil word (isWord_of_mem_words hword).ne_nil
    obtain ⟨hmem, hseparator⟩ := mem_of_mem_words hword hc
    rw [h c hmem] at hseparator
    cases hseparator

lemma isSeparator_of_isLineBreak (h : isLineBreak c = true) : isSeparator c = false := by
  simp only [isLineBreak, Bool.or_eq_true, beq_iff_eq] at h
  rcases h with rfl | rfl <;> rfl

/-- The words are lines exactly if the text is one. -/
lemma exists_lines_iff : (∃ lines : List Line, lines.map Line.chars = words text) ↔
    ∀ c ∈ text, isLineBreak c = false := by
  constructor
  · rintro ⟨lines, hlines⟩ c hc
    by_contra hbreak
    obtain ⟨word, hword, hmem⟩ :=
      exists_mem_words hc (isSeparator_of_isLineBreak (by simpa using hbreak))
    rw [← hlines] at hword
    obtain ⟨line, _, rfl⟩ := List.mem_map.mp hword
    exact hbreak (Line.isLineBreak_eq_false hmem)
  · intro h
    have hrange : words text ∈ Set.range (List.map Line.chars) := by
      rw [Set.range_list_map]
      intro word hword
      refine ⟨⟨word, List.all_eq_true.mpr fun c hc => ?_⟩, rfl⟩
      simp [h c (mem_of_mem_words hword hc).1]
    exact hrange

/-! ### Texts that write no name -/

lemma mapM_fragment?_eq_error {words : List (List Char)} {error : StructureError}
    (h : words.mapM fragment? = .error error) : ∃ lineError, error = .line lineError := by
  induction words with
  | nil => cases h
  | cons word words ih =>
    rw [List.mapM_cons] at h
    cases hword : fragment? word with
    | error first =>
      rw [hword] at h
      cases h
      unfold fragment? at hword
      cases hline : Line.ofText? word with
      | ok line => rw [hline] at hword; cases hword
      | error lineError => rw [hline] at hword; cases hword; exact ⟨lineError, rfl⟩
    | ok line =>
      rw [hword] at h
      cases hrest : words.mapM fragment? with
      | ok lines => rw [hrest] at h; cases h
      | error other => rw [hrest] at h; cases h; exact ih hrest

/-- A text writes no name because it has no words, or because one of them is broken. -/
lemma ofText?_eq_error {error : StructureError} (h : ofText? text = .error error) :
    (error = .emptyName ∧ words text = []) ∨
      ((∃ lineError, error = .line lineError) ∧
        ¬ ∃ lines : List Line, lines.map Line.chars = words text) := by
  unfold ofText? at h
  cases hlines : (words text).mapM fragment? with
  | error other =>
    rw [hlines] at h
    cases h
    refine .inr ⟨mapM_fragment?_eq_error hlines, ?_⟩
    rintro ⟨lines, hwords⟩
    cases hlines.symm.trans (mapM_fragment?_eq_ok_iff.mpr hwords)
  | ok lines =>
    rw [hlines] at h
    change ofFragments? lines = .error error at h
    unfold ofFragments? at h
    split at h
    · rename_i hnil
      cases h
      refine .inl ⟨rfl, ?_⟩
      rw [← mapM_fragment?_eq_ok_iff.mp hlines, hnil, List.map_nil]
    · cases h

lemma ofText?_eq_line_error_iff (text : List Char) :
    (∃ lineError, ofText? text = .error (.line lineError)) ↔ ∃ c ∈ text, isLineBreak c = true := by
  constructor
  · rintro ⟨lineError, h⟩
    rcases ofText?_eq_error h with ⟨hempty, _⟩ | ⟨_, hlines⟩
    · cases hempty
    · simpa [exists_lines_iff] using hlines
  · rintro ⟨c, hc, hbreak⟩
    have hlines : ¬ ∃ lines : List Line, lines.map Line.chars = words text := by
      intro hlines
      rw [exists_lines_iff.mp hlines c hc] at hbreak
      cases hbreak
    cases h : ofText? text with
    | ok name => exact absurd ⟨name.fragments, ofText?_eq_ok_iff.mp h⟩ hlines
    | error error =>
      rcases ofText?_eq_error h with ⟨_, hempty⟩ | ⟨⟨lineError, rfl⟩, _⟩
      · exact absurd ⟨[], hempty.symm⟩ hlines
      · exact ⟨lineError, rfl⟩

lemma ofText?_eq_emptyName_iff (text : List Char) :
    ofText? text = .error .emptyName ↔ ∀ c ∈ text, isSeparator c = true := by
  rw [← words_eq_nil_iff]
  constructor
  · intro h
    rcases ofText?_eq_error h with ⟨_, hempty⟩ | ⟨⟨lineError, hline⟩, _⟩
    · exact hempty
    · cases hline
  · intro h
    rw [ofText?, h]
    rfl

lemma exists_ofText?_iff (text : List Char) : (∃ name, ofText? text = .ok name) ↔
    (∀ c ∈ text, isLineBreak c = false) ∧ ∃ c ∈ text, isSeparator c = false := by
  have hline := ofText?_eq_line_error_iff text
  have hempty := ofText?_eq_emptyName_iff text
  cases h : ofText? text with
  | ok name =>
    simp only [h, reduceCtorEq, exists_false, false_iff] at hline hempty
    simpa using And.intro hline hempty
  | error error =>
    rcases ofText?_eq_error h with ⟨rfl, _⟩ | ⟨⟨lineError, rfl⟩, _⟩ <;> simp_all

end Name

/-! ### Names of rules -/

variable {d : Dialect} {g : Grammar} {start : Option Name} {source : List Char} {id : RuleId}

namespace Grammar

lemma isWord_of_parse (h : parse d source = .ok g) {r : Rule} (hr : r ∈ g.rules) {fragment : Line}
    (hfragment : fragment ∈ r.name.fragments) : Name.IsWord fragment.chars := by
  have hmem : .identifier r.name ∈ g.lexemes d.concatenation.isSome :=
    List.mem_flatMap.mpr ⟨r, hr, Rule.mem_lexemes_iff.mpr (.inl rfl)⟩
  exact ((readable_of_parse h).1 _ hmem fragment hfragment).1

lemma rule_mem (hid : id < g.size) : g.rules[id]? = some (g.rule id) := by
  rw [rule, List.getElem?_eq_getElem hid]
  rfl

/-- In an analyzed grammar the name of a rule leads to the rule. -/
lemma lookup_of_analyze {a : Analysis} (h : g.analyze start = .ok a) (hid : id < g.size) :
    a.lookup (g.rule id).name = some id := by
  obtain ⟨rfl, hclosure, _⟩ := analyze_eq_ok h
  have hnamed : g.Named id (g.rule id).name := ⟨_, rule_mem hid, rfl⟩
  exact (g.lookup_index _).trans (find?_eq_some_iff_of_closureErrors hclosure hnamed).1

end Grammar

namespace Compilation

lemma ofSource_eq_ok {c : Compilation} (h : ofSource d start source = .ok c) :
    ∃ g, Grammar.parse d source = .ok g ∧ g.analyze start = .ok c.analysis := by
  unfold ofSource at h
  cases hg : Grammar.parse d source with
  | error error => rw [hg] at h; cases h
  | ok g =>
    rw [hg] at h
    cases ha : g.analyze start with
    | error error =>
      simp only [Except.mapError, bind, Except.bind, ha] at h
      cases h
    | ok a =>
      simp only [Except.mapError, bind, Except.bind, ha] at h
      cases h
      exact ⟨g, rfl, ha⟩

lemma rule?_joined {c : Compilation} (h : ofSource d start source = .ok c)
    (hid : id < c.analysis.grammar.size) {separator : Char}
    (hseparator : Name.isSeparator separator = true) :
    c.rule? ((c.analysis.grammar.rule id).name.joined [separator]) = some id := by
  obtain ⟨g, hparse, hanalyze⟩ := ofSource_eq_ok h
  obtain ⟨hanalysis, _⟩ := Grammar.analyze_eq_ok hanalyze
  have hgrammar : c.analysis.grammar = g := by rw [hanalysis]; rfl
  rw [hgrammar] at hid ⊢
  have hwords : ∀ fragment ∈ (g.rule id).name.fragments, Name.IsWord fragment.chars :=
    fun _ => Grammar.isWord_of_parse hparse (List.mem_of_getElem? (Grammar.rule_mem hid))
  rw [rule?, Name.ofText?_joined hseparator hwords]
  exact Grammar.lookup_of_analyze hanalyze hid

end Compilation

/-- A text with a line break writes no name, and neither does one of separators alone. Every other text
writes a name whose fragments are words. Words that are joined by any separator write the name of these
words, and so every rule of a compiled grammar is found by its name. -/
theorem Name.ofText?_inverse_joined :
    (∀ text,
      ((∃ lineError, ofText? text = .error (.line lineError)) ↔ ∃ c ∈ text, isLineBreak c = true) ∧
      (ofText? text = .error .emptyName ↔ ∀ c ∈ text, isSeparator c = true) ∧
      ((∃ name, ofText? text = .ok name) ↔
        (∀ c ∈ text, isLineBreak c = false) ∧ ∃ c ∈ text, isSeparator c = false) ∧
      ∀ name, ofText? text = .ok name → ∀ fragment ∈ name.fragments, IsWord fragment.chars) ∧
    (∀ (name : Name) (separator : Char), isSeparator separator = true →
      (∀ fragment ∈ name.fragments, IsWord fragment.chars) →
        ofText? (name.joined [separator]) = .ok name) ∧
    ∀ d start source c, Compilation.ofSource d start source = .ok c →
      ∀ id < c.analysis.grammar.size, ∀ separator, isSeparator separator = true →
        c.rule? ((c.analysis.ruleName id).joined [separator]) = some id := by
  refine ⟨fun text => ⟨ofText?_eq_line_error_iff text, ofText?_eq_emptyName_iff text,
    exists_ofText?_iff text, ?_⟩, ?_, ?_⟩
  · intro name h fragment hfragment
    exact (fragment_of_ofText? h hfragment).1
  · intro name separator hseparator hwords
    exact ofText?_joined hseparator hwords
  · intro d start source c h id hid separator hseparator
    exact Compilation.rule?_joined h hid hseparator

end TypedGrammar
