import Mathlib.Data.List.SplitBy
import TypedGrammar.Name.Basic

/-!
# Written names

A written name is split into words, and words that are joined by a separator are split the same way
again. `IsWord` is what a word is: splitting leaves it whole. The names that can be written are
those whose fragments are words.
-/

namespace TypedGrammar.Name

/-- A piece of text that splitting leaves whole. It is not empty, it holds no separator, and nowhere
in it does an upper case character follow a lower case or numeric one. -/
structure IsWord (word : List Char) : Prop where
  ne_nil : word ≠ []
  unseparated : ∀ c ∈ word, isSeparator c = false
  uncut : word.IsChain fun previous c => startsWord previous c = false

lemma mem_of_mem_splitOnP {α : Type} {p : α → Bool} {l piece : List α} (h : piece ∈ l.splitOnP p)
    {x : α} (hx : x ∈ piece) : x ∈ l ∧ p x = false := by
  induction l generalizing piece with
  | nil =>
    obtain rfl := List.mem_singleton.mp h
    cases hx
  | cons y l ih =>
    rw [List.splitOnP_cons_eq_if_modifyHead] at h
    split at h
    · rcases List.mem_cons.mp h with rfl | h
      · cases hx
      · exact (ih h hx).imp_left (List.mem_cons_of_mem y)
    · rename_i hy
      obtain ⟨first, rest, hsplit⟩ := List.exists_cons_of_ne_nil (List.splitOnP_ne_nil p l)
      rw [hsplit, List.modifyHead_cons] at h
      rw [hsplit] at ih
      rcases List.mem_cons.mp h with rfl | h
      · rcases List.mem_cons.mp hx with rfl | hx
        · exact ⟨by simp, by simpa using hy⟩
        · exact (ih (by simp) hx).imp_left (List.mem_cons_of_mem y)
      · exact (ih (by simp [h]) hx).imp_left (List.mem_cons_of_mem y)

lemma mem_of_mem_splitBy {α : Type} {r : α → α → Bool} {l piece : List α} (h : piece ∈ l.splitBy r)
    {x : α} (hx : x ∈ piece) : x ∈ l := by
  rw [← List.flatten_splitBy r l]
  exact List.mem_flatten.mpr ⟨piece, h, hx⟩

/-- The words of a text hold characters of the text that are no separators. -/
lemma mem_of_mem_words {text word : List Char} (h : word ∈ words text) {c : Char} (hc : c ∈ word) :
    c ∈ text ∧ isSeparator c = false := by
  obtain ⟨piece, hpiece, hword⟩ := List.mem_flatMap.mp h
  exact mem_of_mem_splitOnP hpiece (mem_of_mem_splitBy hword hc)

theorem isWord_of_mem_words {text word : List Char} (h : word ∈ words text) : IsWord word where
  ne_nil := by
    obtain ⟨piece, _, hword⟩ := List.mem_flatMap.mp h
    exact List.ne_nil_of_mem_splitBy hword
  unseparated := fun _ hc => (mem_of_mem_words h hc).2
  uncut := by
    obtain ⟨piece, _, hword⟩ := List.mem_flatMap.mp h
    simpa using List.isChain_of_mem_splitBy hword

lemma words_word {word : List Char} (h : IsWord word) : words word = [word] := by
  rw [words, List.splitOnP_eq_singleton h.unseparated, List.flatMap_singleton]
  exact List.splitBy_of_isChain h.ne_nil (by simpa using h.uncut)

/-- Words that are joined by a separator are split again at the same places. -/
theorem words_intercalate {separator : Char} (hseparator : isSeparator separator = true)
    {pieces : List (List Char)} (h : ∀ piece ∈ pieces, IsWord piece) :
    words ([separator].intercalate pieces) = pieces := by
  induction pieces with
  | nil => rfl
  | cons piece pieces ih =>
    have hpiece := h piece (by simp)
    cases pieces with
    | nil => rw [List.intercalate_singleton, words_word hpiece]
    | cons next pieces =>
      have ih := ih fun piece hp => h piece (by simp [hp])
      rw [words] at ih ⊢
      rw [List.intercalate_cons_cons, List.append_assoc, List.singleton_append,
        List.splitOnP_append_cons _ _ hseparator, List.flatMap_append, ih]
      exact congrArg (· ++ next :: pieces) (words_word hpiece)

/-! ### Names of written text -/

lemma fragment?_eq_ok_iff {word : List Char} {line : Line} :
    fragment? word = .ok line ↔ line.chars = word := by
  constructor
  · intro h
    cases hline : Line.ofText? word with
    | ok other =>
      rw [fragment?, hline] at h
      cases h
      exact Line.chars_of_ofText? hline
    | error error =>
      rw [fragment?, hline] at h
      cases h
  · rintro rfl
    rw [fragment?, Line.ofText?_chars]
    rfl

lemma mapM_fragment?_eq_ok_iff {words : List (List Char)} {lines : List Line} :
    words.mapM fragment? = .ok lines ↔ lines.map Line.chars = words := by
  induction words generalizing lines with
  | nil =>
    rw [List.map_eq_nil_iff, List.mapM_nil]
    exact ⟨fun h => by cases h; rfl, fun h => by rw [h]; rfl⟩
  | cons word words ih =>
    rw [List.mapM_cons]
    constructor
    · intro h
      cases hword : fragment? word with
      | error error => rw [hword] at h; cases h
      | ok line =>
        cases hrest : words.mapM fragment? with
        | error error => rw [hword, hrest] at h; cases h
        | ok rest =>
          rw [hword, hrest] at h
          cases h
          rw [List.map_cons, fragment?_eq_ok_iff.mp hword, ih.mp hrest]
    · intro h
      cases lines with
      | nil => cases h
      | cons line lines =>
        obtain ⟨hline, hlines⟩ := List.cons.inj h
        rw [fragment?_eq_ok_iff.mpr hline, ih.mpr hlines]
        rfl

/-- The text writes the name whose fragments are its words. -/
theorem ofText?_eq_ok_iff {text : List Char} {name : Name} :
    ofText? text = .ok name ↔ name.fragments.map Line.chars = words text := by
  rw [← mapM_fragment?_eq_ok_iff, ofText?]
  constructor
  · intro h
    cases hlines : (words text).mapM fragment? with
    | error error => rw [hlines] at h; cases h
    | ok lines =>
      rw [hlines] at h
      change ofFragments? lines = .ok name at h
      rw [ofFragments?] at h
      split at h
      · cases h
      · cases h
        rfl
  · intro h
    rw [h]
    change ofFragments? name.fragments = .ok name
    rw [ofFragments?, dif_neg name.fragments_ne_nil]

/-- A name whose fragments are words is read back when any separator is written between them. -/
theorem ofText?_joined {separator : Char} (hseparator : isSeparator separator = true) {name : Name}
    (h : ∀ fragment ∈ name.fragments, IsWord fragment.chars) :
    ofText? (name.joined [separator]) = .ok name := by
  rw [ofText?_eq_ok_iff, joined, words_intercalate hseparator]
  intro piece hpiece
  obtain ⟨fragment, hfragment, rfl⟩ := List.mem_map.mp hpiece
  exact h fragment hfragment

/-- The fragments of a name that was read are words, made of characters of the text. -/
theorem fragment_of_ofText? {text : List Char} {name : Name} (h : ofText? text = .ok name)
    {fragment : Line} (hfragment : fragment ∈ name.fragments) :
    IsWord fragment.chars ∧ ∀ c ∈ fragment.chars, c ∈ text := by
  have hmem : fragment.chars ∈ words text := by
    rw [← ofText?_eq_ok_iff.mp h]
    exact List.mem_map_of_mem hfragment
  exact ⟨isWord_of_mem_words hmem, fun c hc => (mem_of_mem_words hmem hc).1⟩

end TypedGrammar.Name
