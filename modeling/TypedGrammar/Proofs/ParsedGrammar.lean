import TypedGrammar.Proofs.GrammarLexemes
import TypedGrammar.Proofs.ReadLexeme

/-!
# What the parser reads

The parser reads a grammar exactly when the stream holds its lexemes and the empty part stands alone
wherever it occurs. The proof follows the functions of the parser in both directions: what each of
them reads it has moved over, and what it moves over it reads.
-/

namespace TypedGrammar

/-! ### Moving over lexemes -/

namespace Parser

/-- From the first parser the lexemes are moved over, one at a time, to the second. -/
inductive Passes : Parser → List Lexeme → Parser → Prop
  | nil {p : Parser} : Passes p [] p
  | cons {p q r : Parser} {lexemes : List Lexeme} (hbump : p.bump = (.ok (), q))
      (hrest : Passes q lexemes r) : Passes p (p.current.lexeme :: lexemes) r

lemma passes_nil_iff {p q : Parser} : p.Passes [] q ↔ q = p := by
  constructor
  · rintro ⟨⟩
    rfl
  · rintro rfl
    exact .nil

lemma passes_cons_iff {p q : Parser} {lexeme : Lexeme} {lexemes : List Lexeme} :
    p.Passes (lexeme :: lexemes) q ↔
      p.current.lexeme = lexeme ∧ ∃ r, p.bump = (.ok (), r) ∧ r.Passes lexemes q := by
  constructor
  · rintro (_ | ⟨hbump, hrest⟩)
    exact ⟨rfl, _, hbump, hrest⟩
  · rintro ⟨rfl, r, hbump, hrest⟩
    exact .cons hbump hrest

lemma passes_append_iff {p q : Parser} {before after : List Lexeme} :
    p.Passes (before ++ after) q ↔ ∃ r, p.Passes before r ∧ r.Passes after q := by
  induction before generalizing p with
  | nil =>
    constructor
    · intro h
      exact ⟨p, .nil, h⟩
    · rintro ⟨r, hbefore, hafter⟩
      obtain rfl := passes_nil_iff.mp hbefore
      exact hafter
  | cons lexeme before ih =>
    rw [List.cons_append, passes_cons_iff]
    constructor
    · rintro ⟨hcurrent, p', hbump, hrest⟩
      obtain ⟨r, hbefore, hafter⟩ := ih.mp hrest
      exact ⟨r, passes_cons_iff.mpr ⟨hcurrent, p', hbump, hbefore⟩, hafter⟩
    · rintro ⟨r, hbefore, hafter⟩
      obtain ⟨hcurrent, p', hbump, hbefore⟩ := passes_cons_iff.mp hbefore
      exact ⟨hcurrent, p', hbump, ih.mpr ⟨r, hbefore, hafter⟩⟩

lemma separated_bump (p : Parser) : p.bump.2.separated = p.separated := by
  unfold bump
  split <;> rfl

lemma separated_of_bump {p q : Parser} (h : p.bump = (.ok (), q)) : q.separated = p.separated := by
  rw [← separated_bump p, h]

lemma Passes.separated {p q : Parser} {lexemes : List Lexeme} (h : p.Passes lexemes q) :
    q.separated = p.separated := by
  induction h with
  | nil => rfl
  | cons hbump _ ih => exact ih.trans (separated_of_bump hbump)

lemma andMap_eq_ok_iff {α β : Type} {x : Except ParseError α × Parser} {f : α → β} {b : β}
    {q : Parser} : andMap x f = (.ok b, q) ↔ ∃ a, x = (.ok a, q) ∧ f a = b := by
  obtain ⟨error | a, p⟩ := x
  · constructor
    · intro h
      cases (Prod.mk.inj h).1
    · rintro ⟨a, h, _⟩
      cases h
  · constructor
    · intro h
      cases h
      exact ⟨a, rfl, rfl⟩
    · rintro ⟨_, h, rfl⟩
      cases h
      rfl

lemma andThen_eq_ok_iff {α β : Type} {x : Except ParseError α × Parser}
    {next : α → Parser → Except ParseError β × Parser} {b : β} {q : Parser} :
    andThen x next = (.ok b, q) ↔ ∃ a p, x = (.ok a, p) ∧ next a p = (.ok b, q) := by
  obtain ⟨error | a, p⟩ := x
  · constructor
    · intro h
      cases (Prod.mk.inj h).1
    · rintro ⟨a, p, h, _⟩
      cases h
  · constructor
    · intro h
      exact ⟨a, p, rfl, h⟩
    · rintro ⟨_, _, h, hnext⟩
      cases h
      exact hnext

lemma expect_eq_ok_iff {p q : Parser} (lexeme : Lexeme) (hlexeme : lexeme.part? = none) :
    p.expect lexeme.kind = (.ok (), q) ↔ p.Passes [lexeme] q := by
  simp only [passes_cons_iff, passes_nil_iff, expect]
  constructor
  · intro h
    split at h
    · rename_i hkind
      exact ⟨Lexeme.eq_of_kind_eq hkind hlexeme, q, h, rfl⟩
    · cases h
  · rintro ⟨rfl, r, hbump, rfl⟩
    rw [if_pos (by rfl), hbump]

/-! ### What is read was moved over -/

lemma passes_parts {p q : Parser} {a : Alternative} (h : p.parts = (.ok a, q)) :
    p.Passes (Alternative.lexemes p.separated a) q ∧ .epsilon ∉ a ∧
      (p.current.lexeme.part?.isSome → a ≠ []) := by
  fun_induction parts p generalizing a with
  | case1 p hpart =>
    cases h
    simp [hpart, Passes.nil]
  | case2 => cases (Prod.mk.inj h).1
  | case3 => cases (Prod.mk.inj h).1
  | case4 p part hpart p₁ hbump hseparated hkind p₂ hsecond hstart ih =>
    obtain ⟨a, hrest, rfl⟩ := andMap_eq_ok_iff.mp h
    obtain ⟨hpasses, hepsilon, hne⟩ := ih hrest
    obtain ⟨hlexeme, hpartne⟩ := Part.lexeme_of_part? hpart
    obtain ⟨second, a, rfl⟩ := List.exists_cons_of_ne_nil (hne hstart)
    refine ⟨?_, by simp [hpartne.symm, hepsilon], by simp⟩
    have hseparator := Lexeme.eq_of_kind_eq (b := .sequenceSeparator) hkind rfl
    rw [separated_of_bump hsecond, separated_of_bump hbump, hseparated] at hpasses
    rw [hseparated, Alternative.lexemes_cons_cons]
    exact passes_cons_iff.mpr ⟨hlexeme.symm, p₁, hbump,
      passes_cons_iff.mpr ⟨hseparator, p₂, hsecond, hpasses⟩⟩
  | case5 => cases (Prod.mk.inj h).1
  | case6 p part hpart p₁ hbump hseparated hkind =>
    cases h
    obtain ⟨hlexeme, hpartne⟩ := Part.lexeme_of_part? hpart
    refine ⟨?_, by simp [hpartne.symm], by simp⟩
    rw [Alternative.lexemes_singleton]
    exact passes_cons_iff.mpr ⟨hlexeme.symm, q, hbump, .nil⟩
  | case7 p part hpart p₁ hbump hseparated ih =>
    obtain ⟨a, hrest, rfl⟩ := andMap_eq_ok_iff.mp h
    obtain ⟨hpasses, hepsilon, _⟩ := ih hrest
    obtain ⟨hlexeme, hpartne⟩ := Part.lexeme_of_part? hpart
    refine ⟨?_, by simp [hpartne.symm, hepsilon], by simp⟩
    simp only [Bool.not_eq_true] at hseparated
    rw [separated_of_bump hbump, hseparated] at hpasses
    rw [hseparated, Alternative.lexemes_cons]
    exact passes_cons_iff.mpr ⟨hlexeme.symm, p₁, hbump, hpasses⟩

lemma passes_alternative {p q : Parser} {a : Alternative} (h : p.alternative = (.ok a, q)) :
    p.Passes (Alternative.lexemes p.separated a) q ∧ Alternative.EpsilonAlone a := by
  unfold alternative at h
  split at h
  · rename_i hkind
    obtain ⟨⟨⟩, hbump, rfl⟩ := andMap_eq_ok_iff.mp h
    have hlexeme := Lexeme.eq_of_kind_eq (b := .epsilonMarker) hkind rfl
    rw [Alternative.lexemes_singleton]
    exact ⟨passes_cons_iff.mpr ⟨hlexeme, q, hbump, .nil⟩, fun _ => rfl⟩
  · obtain ⟨hpasses, hepsilon, _⟩ := passes_parts h
    exact ⟨hpasses, fun hmem => absurd hmem hepsilon⟩

lemma passes_definition {p q : Parser} {d : Definition} (h : p.definition = (.ok d, q)) :
    p.Passes (d.lexemes p.separated) q ∧ ∀ a ∈ d.alternatives, Alternative.EpsilonAlone a := by
  fun_induction definition p generalizing d with
  | case1 => cases (Prod.mk.inj h).1
  | case2 => cases (Prod.mk.inj h).1
  | case3 p a p₁ ha hkind p₂ hbump ih =>
    obtain ⟨rest, hrest, rfl⟩ := andMap_eq_ok_iff.mp h
    obtain ⟨hpasses, hepsilon⟩ := passes_alternative ha
    obtain ⟨hpassesRest, hepsilonRest⟩ := ih hrest
    have hlexeme := Lexeme.eq_of_kind_eq (b := .alternativeSeparator) hkind rfl
    rw [separated_of_bump hbump, hpasses.separated] at hpassesRest
    refine ⟨?_, List.forall_mem_cons.mpr ⟨hepsilon, hepsilonRest⟩⟩
    rw [Definition.lexemes_cons, passes_append_iff]
    exact ⟨p₁, hpasses, passes_cons_iff.mpr ⟨hlexeme, p₂, hbump, hpassesRest⟩⟩
  | case4 p a p₁ ha hkind =>
    cases h
    obtain ⟨hpasses, hepsilon⟩ := passes_alternative ha
    rw [Definition.lexemes_single]
    exact ⟨hpasses, by simpa [Definition.single] using hepsilon⟩

lemma passes_rule {p q : Parser} {r : Rule} (h : p.rule = (.ok r, q)) :
    p.Passes (r.lexemes p.separated) q ∧ ∀ a ∈ r.alternatives, Alternative.EpsilonAlone a := by
  unfold rule at h
  split at h
  · rename_i name hname
    obtain ⟨⟨⟩, p₁, hbump, h⟩ := andThen_eq_ok_iff.mp h
    obtain ⟨⟨⟩, p₂, hassign, h⟩ := andThen_eq_ok_iff.mp h
    obtain ⟨d, p₃, hd, h⟩ := andThen_eq_ok_iff.mp h
    obtain ⟨⟨⟩, hend, rfl⟩ := andMap_eq_ok_iff.mp h
    have hassign := (expect_eq_ok_iff .ruleAssign rfl).mp hassign
    obtain ⟨hpasses, hepsilon⟩ := passes_definition hd
    rw [hassign.separated, separated_of_bump hbump] at hpasses
    refine ⟨?_, hepsilon⟩
    have hbefore : p.Passes [.identifier name, .ruleAssign] p₂ :=
      passes_cons_iff.mpr ⟨hname, p₁, hbump, hassign⟩
    refine passes_append_iff.mpr ⟨p₃, ?_, (expect_eq_ok_iff .ruleTerminator rfl).mp hend⟩
    exact passes_append_iff.mpr ⟨p₂, hbefore, hpasses⟩
  · cases (Prod.mk.inj h).1

lemma passes_grammar {p q : Parser} {g : Grammar} (h : p.grammar = (.ok g, q)) :
    p.Passes (g.lexemes p.separated) q ∧ q.current.lexeme = .endOfInput ∧ g.EpsilonAlone := by
  fun_induction grammar p generalizing g with
  | case1 => cases (Prod.mk.inj h).1
  | case2 p r p₁ hr hkind =>
    cases h
    obtain ⟨hpasses, hepsilon⟩ := passes_rule hr
    refine ⟨?_, Lexeme.eq_of_kind_eq (b := .endOfInput) hkind rfl, ?_⟩
    · simpa [Grammar.lexemes, Grammar.single] using hpasses
    · simpa [Grammar.EpsilonAlone, Grammar.single] using hepsilon
  | case3 p r p₁ hr hkind ih =>
    obtain ⟨rest, hrest, rfl⟩ := andMap_eq_ok_iff.mp h
    obtain ⟨hpasses, hepsilon⟩ := passes_rule hr
    obtain ⟨hpassesRest, hend, hepsilonRest⟩ := ih hrest
    rw [hpasses.separated] at hpassesRest
    exact ⟨passes_append_iff.mpr ⟨p₁, hpasses, hpassesRest⟩, hend,
      List.forall_mem_cons.mpr ⟨hepsilon, hepsilonRest⟩⟩

/-! ### What is moved over is read -/

/-- The current token ends an alternative of a rule. -/
def EndsAlternative (p : Parser) : Prop :=
  p.current.lexeme = .alternativeSeparator ∨ p.current.lexeme = .ruleTerminator

lemma EndsAlternative.part? {p : Parser} (h : p.EndsAlternative) :
    p.current.lexeme.part? = none := by
  rcases h with h | h <;> rw [h] <;> rfl

lemma EndsAlternative.kind_ne {p : Parser} (h : p.EndsAlternative) :
    p.current.kind ≠ .sequenceSeparator ∧ p.current.kind ≠ .epsilonMarker := by
  rcases h with h | h <;> simp [Token.kind, h, Lexeme.kind]

/-- What is read from a first part on. -/
lemma parts_eq {p q : Parser} {part : Part} (hpart : p.current.lexeme.part? = some part)
    (hbump : p.bump = (.ok (), q)) :
    p.parts =
      if p.separated then
        if q.current.kind = .sequenceSeparator then
          andThen q.bump fun () r =>
            if r.current.lexeme.part?.isSome then andMap r.parts (part :: ·)
            else (.error (r.unexpected .identifier), r)
        else (.ok [part], q)
      else andMap q.parts (part :: ·) := by
  rw [parts]
  split
  · rename_i hnone
    rw [hpart] at hnone
    cases hnone
  · rename_i hsome
    cases hpart.symm.trans hsome
    split
    · rename_i herror
      cases hbump.symm.trans herror
    · rename_i hok
      cases hbump.symm.trans hok
      split
      · split
        · split
          · rename_i hsecond
            rw [hsecond]
            rfl
          · rename_i hsecond
            rw [hsecond]
            rfl
        · rfl
      · rfl

lemma definition_eq (p : Parser) :
    p.definition = andThen p.alternative fun a q =>
      if q.current.kind = .alternativeSeparator then
        andThen q.bump fun () r => andMap r.definition (Definition.cons a)
      else (.ok (.single a), q) := by
  rw [definition]
  split
  · rename_i ha
    rw [ha]
    rfl
  · rename_i ha
    rw [ha]
    dsimp only [andThen]
    split
    · split
      · rename_i hbump
        rw [hbump]
      · rename_i hbump
        rw [hbump]
    · rfl

lemma grammar_eq (p : Parser) :
    p.grammar = andThen p.rule fun r q =>
      if q.current.kind = .endOfInput then (.ok (.single r), q)
      else andMap q.grammar (Grammar.cons r) := by
  rw [grammar]
  split
  · rename_i hr
    rw [hr]
    rfl
  · rename_i hr
    rw [hr]
    rfl

lemma parts_of_passes {p q : Parser} {a : Alternative}
    (h : p.Passes (Alternative.lexemes p.separated a) q) (hepsilon : .epsilon ∉ a)
    (hend : q.EndsAlternative) : p.parts = (.ok a, q) := by
  induction a generalizing p with
  | nil =>
    rw [Alternative.lexemes_nil, passes_nil_iff] at h
    subst h
    rw [parts]
    split
    · rfl
    · rename_i part hpart
      rw [hend.part?] at hpart
      cases hpart
  | cons part a ih =>
    obtain ⟨hpart, hepsilon⟩ := List.ne_and_not_mem_of_not_mem_cons hepsilon
    cases hseparated : p.separated with
    | false =>
      -- Without separators the next part begins right after the first.
      rw [hseparated, Alternative.lexemes_cons] at h
      obtain ⟨hcurrent, r, hbump, hrest⟩ := passes_cons_iff.mp h
      rw [← hseparated, ← separated_of_bump hbump] at hrest
      rw [parts_eq (hcurrent ▸ Part.part?_lexeme hpart.symm) hbump, hseparated, if_neg (by simp),
        ih hrest hepsilon]
      rfl
    | true =>
      cases a with
      | nil =>
        rw [Alternative.lexemes_singleton] at h
        obtain ⟨hcurrent, r, hbump, hrest⟩ := passes_cons_iff.mp h
        obtain rfl := passes_nil_iff.mp hrest
        rw [parts_eq (hcurrent ▸ Part.part?_lexeme hpart.symm) hbump, hseparated, if_pos rfl,
          if_neg hend.kind_ne.1]
      | cons second a =>
        rw [hseparated, Alternative.lexemes_cons_cons] at h
        obtain ⟨hcurrent, r, hbump, hrest⟩ := passes_cons_iff.mp h
        obtain ⟨hseparator, r₂, hbump₂, hrest⟩ := passes_cons_iff.mp hrest
        have hstart : r₂.current.lexeme.part?.isSome = true := by
          have hsecond := (List.ne_and_not_mem_of_not_mem_cons hepsilon).1
          obtain ⟨_, hlexemes⟩ := Alternative.exists_lexemes_cons true second a
          rw [hlexemes] at hrest
          rw [(passes_cons_iff.mp hrest).1, Part.part?_lexeme hsecond.symm]
          rfl
        rw [← hseparated, ← separated_of_bump hbump, ← separated_of_bump hbump₂] at hrest
        rw [parts_eq (hcurrent ▸ Part.part?_lexeme hpart.symm) hbump, hseparated, if_pos rfl,
          if_pos (by rw [Token.kind, hseparator]; rfl), hbump₂]
        simp only [andThen, hstart, if_true]
        rw [ih hrest hepsilon]
        rfl

lemma alternative_of_passes {p q : Parser} {a : Alternative}
    (h : p.Passes (Alternative.lexemes p.separated a) q) (hepsilon : Alternative.EpsilonAlone a)
    (hend : q.EndsAlternative) : p.alternative = (.ok a, q) := by
  by_cases hmem : .epsilon ∈ a
  · obtain rfl := hepsilon hmem
    rw [Alternative.lexemes_singleton] at h
    obtain ⟨hcurrent, r, hbump, hrest⟩ := passes_cons_iff.mp h
    obtain rfl := passes_nil_iff.mp hrest
    rw [alternative, if_pos (by rw [Token.kind, hcurrent]; rfl), hbump]
    rfl
  · have hkind : p.current.kind ≠ .epsilonMarker := by
      cases a with
      | nil =>
        rw [Alternative.lexemes_nil, passes_nil_iff] at h
        subst h
        exact hend.kind_ne.2
      | cons part a =>
        obtain ⟨_, hlexemes⟩ := Alternative.exists_lexemes_cons p.separated part a
        rw [hlexemes] at h
        have hpart := Part.part?_lexeme (List.ne_and_not_mem_of_not_mem_cons hmem).1.symm
        intro hkind
        rw [← (passes_cons_iff.mp h).1,
          Lexeme.eq_of_kind_eq (b := .epsilonMarker) hkind rfl] at hpart
        cases hpart
    rw [alternative, if_neg hkind]
    exact parts_of_passes h hmem hend

lemma definition_of_passes {p q : Parser} {d : Definition} (h : p.Passes (d.lexemes p.separated) q)
    (hepsilon : ∀ a ∈ d.alternatives, Alternative.EpsilonAlone a)
    (hend : q.current.lexeme = .ruleTerminator) : p.definition = (.ok d, q) := by
  obtain ⟨alternatives, hne⟩ := d
  induction alternatives generalizing p with
  | nil => exact absurd rfl hne
  | cons a rest ih =>
    have hendKind : q.current.kind ≠ .alternativeSeparator := by
      simp [Token.kind, hend, Lexeme.kind]
    by_cases hrest : rest = []
    · subst hrest
      change p.Passes ((Definition.single a).lexemes p.separated) q at h
      rw [Definition.lexemes_single] at h
      rw [definition_eq, alternative_of_passes h (hepsilon a (by simp)) (.inr hend)]
      exact if_neg hendKind
    · change p.Passes ((Definition.cons a ⟨rest, hrest⟩).lexemes p.separated) q at h
      rw [Definition.lexemes_cons] at h
      obtain ⟨r, hfirst, hothers⟩ := passes_append_iff.mp h
      obtain ⟨hcurrent, r₂, hbump, hothers⟩ := passes_cons_iff.mp hothers
      rw [← hfirst.separated, ← separated_of_bump hbump] at hothers
      rw [definition_eq, alternative_of_passes hfirst (hepsilon a (by simp)) (.inl hcurrent)]
      dsimp only [andThen]
      rw [if_pos (by rw [Token.kind, hcurrent]; rfl), hbump]
      dsimp only
      rw [ih hrest hothers fun b hb => hepsilon b (by simp [hb])]
      rfl

lemma rule_of_passes {p q : Parser} {r : Rule} (h : p.Passes (r.lexemes p.separated) q)
    (hepsilon : ∀ a ∈ r.alternatives, Alternative.EpsilonAlone a) : p.rule = (.ok r, q) := by
  obtain ⟨name, d⟩ := r
  obtain ⟨p₃, h, hend⟩ := passes_append_iff.mp h
  obtain ⟨hname, p₁, hbump, h⟩ := passes_cons_iff.mp h
  obtain ⟨hassign, p₂, hbump₂, h⟩ := passes_cons_iff.mp h
  rw [← separated_of_bump hbump, ← separated_of_bump hbump₂] at h
  rw [rule, hname]
  dsimp only
  refine andThen_eq_ok_iff.mpr ⟨(), p₁, hbump, ?_⟩
  refine andThen_eq_ok_iff.mpr ⟨(), p₂, ?_, ?_⟩
  · exact (expect_eq_ok_iff .ruleAssign rfl).mpr
      (passes_cons_iff.mpr ⟨hassign, p₂, hbump₂, .nil⟩)
  · refine andThen_eq_ok_iff.mpr ⟨d, p₃, ?_, ?_⟩
    · exact definition_of_passes h hepsilon (passes_cons_iff.mp hend).1
    · exact andMap_eq_ok_iff.mpr
        ⟨(), (expect_eq_ok_iff .ruleTerminator rfl).mpr hend, rfl⟩

lemma grammar_of_passes {p q : Parser} {g : Grammar} (h : p.Passes (g.lexemes p.separated) q)
    (hepsilon : g.EpsilonAlone) (hend : q.current.lexeme = .endOfInput) :
    p.grammar = (.ok g, q) := by
  obtain ⟨rules, hne⟩ := g
  induction rules generalizing p with
  | nil => exact absurd rfl hne
  | cons r rest ih =>
    obtain ⟨p₁, hfirst, hothers⟩ := passes_append_iff.mp h
    rw [grammar_eq, rule_of_passes hfirst (hepsilon r (by simp))]
    dsimp only [andThen]
    by_cases hrest : rest = []
    · subst hrest
      obtain rfl := passes_nil_iff.mp hothers
      rw [if_pos (by rw [Token.kind, hend]; rfl)]
      rfl
    · have hkind : p₁.current.kind ≠ .endOfInput := by
        obtain ⟨second, others, rfl⟩ := List.exists_cons_of_ne_nil hrest
        simp [Token.kind, (passes_cons_iff.mp hothers).1, Lexeme.kind]
      rw [← hfirst.separated] at hothers
      rw [if_neg hkind, ih hrest hothers fun r' hr' => hepsilon r' (by simp [hr'])]
      rfl

end Parser

/-! ### Streams -/

/-- The stream is made of the lexemes and ends with the end of the input. -/
def TokenStream.Holds (s : TokenStream) (lexemes : List Lexeme) : Prop :=
  s.tokens.map Token.lexeme = lexemes ∧ ∃ position, s.ending = .endOfInput position

/-- A parser at the beginning of a stream can move over all that the stream holds. -/
lemma passes_of_holds {s : TokenStream} {lexemes : List Lexeme} (h : s.Holds lexemes)
    (separated : Bool) :
    ∃ token ahead q, s.pull = (.ok token, ahead) ∧
      Parser.Passes ⟨token, ahead, separated⟩ lexemes q ∧ q.current.lexeme = .endOfInput := by
  obtain ⟨tokens, ending⟩ := s
  obtain ⟨rfl, position, rfl⟩ := h
  induction tokens with
  | nil => exact ⟨_, _, _, rfl, .nil, rfl⟩
  | cons token tokens ih =>
    obtain ⟨next, ahead, q, hpull, hpasses, hend⟩ := ih
    refine ⟨token, ⟨tokens, .endOfInput position⟩, q, rfl, ?_, hend⟩
    have hbump : Parser.bump ⟨token, ⟨tokens, .endOfInput position⟩, separated⟩ =
        (.ok (), ⟨next, ahead, separated⟩) := by simp [Parser.bump, hpull]
    exact Parser.passes_cons_iff.mpr ⟨rfl, _, hbump, hpasses⟩

/-- What a parser moves over before it reaches the end of the input is what its stream holds. -/
lemma holds_of_passes {s ahead : TokenStream} {lexemes : List Lexeme} {token : Token}
    {separated : Bool} {q : Parser} (hpull : s.pull = (.ok token, ahead))
    (h : Parser.Passes ⟨token, ahead, separated⟩ lexemes q)
    (htokens : ∀ t ∈ s.tokens, t.lexeme ≠ .endOfInput) (hlexemes : .endOfInput ∉ lexemes)
    (hend : q.current.lexeme = .endOfInput) : s.Holds lexemes := by
  obtain ⟨tokens, ending⟩ := s
  -- The parser holds one token that the stream has given out, so the stream is one token longer.
  induction lexemes generalizing tokens token ahead with
  | nil =>
    obtain rfl := Parser.passes_nil_iff.mp h
    cases tokens with
    | nil =>
      cases ending with
      | endOfInput position => exact ⟨rfl, position, rfl⟩
      | failed error location => cases (Prod.mk.inj hpull).1
    | cons first tokens =>
      cases hpull
      exact absurd hend (htokens token (by simp))
  | cons lexeme lexemes ih =>
    obtain ⟨hcurrent, r, hbump, hrest⟩ := Parser.passes_cons_iff.mp h
    obtain ⟨hlexeme, hlexemes⟩ := List.ne_and_not_mem_of_not_mem_cons hlexemes
    cases tokens with
    | nil =>
      cases ending with
      | endOfInput position =>
        cases hpull
        exact absurd hcurrent hlexeme
      | failed error location => cases (Prod.mk.inj hpull).1
    | cons first tokens =>
      cases hpull
      unfold Parser.bump at hbump
      split at hbump
      · rename_i next after hnext
        cases hbump
        have hahead := fun t ht => htokens t (List.mem_cons_of_mem token ht)
        obtain ⟨hmap, hending⟩ := ih hrest hlexemes tokens hnext hahead
        exact ⟨by rw [List.map_cons, hmap, ← hcurrent], hending⟩
      · cases hbump

lemma Grammar.parse_of_ok {d : Dialect} {source : List Char} {p : Parser}
    (h : Parser.ofSource d source = .ok p) : Grammar.parse d source = p.grammar.1 := by
  rw [parse, h]
  rfl

lemma Grammar.parse_of_error {d : Dialect} {source : List Char} {error : ParseError}
    (h : Parser.ofSource d source = .error error) : Grammar.parse d source = .error error := by
  rw [parse, h]
  rfl

/-- Source is read as a grammar exactly when its tokens are those of the grammar. Only an empty part
that does not stand alone keeps a grammar from being read. -/
theorem Grammar.parse_eq_ok_iff {d : Dialect} {source : List Char} {g : Grammar} :
    Grammar.parse d source = .ok g ↔
      (Lexer.ofSource d source).stream.Holds (g.lexemes d.concatenation.isSome) ∧
        g.EpsilonAlone := by
  constructor
  · intro h
    unfold parse Parser.ofSource at h
    split at h
    · rename_i token ahead hpull
      let p : Parser := ⟨token, ahead, d.concatenation.isSome⟩
      change p.grammar.1 = .ok g at h
      obtain ⟨hpasses, hend, hepsilon⟩ := Parser.passes_grammar (p := p) (Prod.ext h rfl)
      refine ⟨holds_of_passes hpull hpasses ?_ (endOfInput_not_mem_lexemes g _) hend, hepsilon⟩
      exact fun t ht => (Lexer.readable_of_mem_stream ht).2
    · cases h
  · rintro ⟨hholds, hepsilon⟩
    obtain ⟨token, ahead, q, hpull, hpasses, hend⟩ := passes_of_holds hholds d.concatenation.isSome
    have hgrammar := Parser.grammar_of_passes hpasses hepsilon hend
    rw [parse, Parser.ofSource, hpull]
    change (Parser.grammar ⟨token, ahead, d.concatenation.isSome⟩).1 = .ok g
    rw [hgrammar]

end TypedGrammar
