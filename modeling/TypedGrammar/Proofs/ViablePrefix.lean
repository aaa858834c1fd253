import TypedGrammar.Proofs.ParseTree

/-!
# Lexemes that can still become a grammar

Lexemes are viable when they begin what some parse tree derives, the end of the input after it. The
grammar of grammars is regular: how lexemes can go on depends only on a stage that they lead to, and
the stages are few. Lexemes are viable exactly when they lead to a stage.
-/

namespace TypedGrammar

/-- The lexemes begin what a parse tree derives, with the end of the input after it. -/
def Viable (separated : Bool) (lexemes : List Lexeme) : Prop :=
  ∃ t : GrammarTree, lexemes <+: t.frontier separated ++ [.endOfInput]

/-- What follows the first of the parts of a choice. -/
def PartTree.frontierAfter (separated : Bool) (trees : List PartTree) : List Lexeme :=
  trees.flatMap fun t => if separated then [.sequenceSeparator, t.lexeme] else [t.lexeme]

lemma ChoiceTree.frontier_parts_cons {separated : Bool} (t : PartTree) (trees : List PartTree) :
    (parts (t :: trees)).frontier separated =
      t.lexeme :: PartTree.frontierAfter separated trees := by
  cases separated with
  | false => simp [frontier, PartTree.frontierAfter, List.map_eq_flatMap]
  | true =>
    induction trees generalizing t with
    | nil => rfl
    | cons second trees ih =>
      have hsecond := ih second
      simp only [frontier, if_true, List.map_cons] at hsecond ⊢
      rw [List.intersperse_cons_cons, hsecond]
      simp [PartTree.frontierAfter]

/-- What has been read last, as far as it decides what can follow. -/
inductive Stage where
  | start
  | ruleName
  /-- An assignment or a separator of alternatives, so that a choice begins. -/
  | opening
  | epsilonMarker
  | part
  | sequenceSeparator
  | ruleTerminator
  | endOfInput
  deriving DecidableEq

namespace Stage

/-- The stage after a token of the given kind, if one may follow. -/
def next? (separated : Bool) : Stage → TokenKind → Option Stage
  | .start, .identifier
  | .ruleTerminator, .identifier => some .ruleName
  | .ruleTerminator, .endOfInput => some .endOfInput
  | .ruleName, .ruleAssign => some .opening
  | .opening, .epsilonMarker => some .epsilonMarker
  | .opening, .identifier
  | .opening, .quotedLiteral
  | .sequenceSeparator, .identifier
  | .sequenceSeparator, .quotedLiteral => some .part
  | .part, .identifier
  | .part, .quotedLiteral => if separated then none else some .part
  | .part, .sequenceSeparator => if separated then some .sequenceSeparator else none
  | .opening, .alternativeSeparator
  | .epsilonMarker, .alternativeSeparator
  | .part, .alternativeSeparator => some .opening
  | .opening, .ruleTerminator
  | .epsilonMarker, .ruleTerminator
  | .part, .ruleTerminator => some .ruleTerminator
  | _, _ => none

/-- The stage after the lexemes, if they may follow one another. -/
def run? (separated : Bool) (s : Stage) (lexemes : List Lexeme) : Option Stage :=
  lexemes.foldlM (fun s lexeme => s.next? separated lexeme.kind) s

section Follow

variable {separated : Bool} {kind : TokenKind}

@[simp] lemma isSome_next?_start : (start.next? separated kind).isSome ↔ kind = .identifier := by
  cases kind <;> simp [next?]

@[simp] lemma isSome_next?_ruleName :
    (ruleName.next? separated kind).isSome ↔ kind = .ruleAssign := by
  cases kind <;> simp [next?]

@[simp] lemma isSome_next?_opening :
    (opening.next? separated kind).isSome ↔ kind = .identifier ∨ kind = .quotedLiteral ∨
      kind = .epsilonMarker ∨ kind = .alternativeSeparator ∨ kind = .ruleTerminator := by
  cases kind <;> simp [next?]

@[simp] lemma isSome_next?_epsilonMarker :
    (epsilonMarker.next? separated kind).isSome ↔
      kind = .alternativeSeparator ∨ kind = .ruleTerminator := by
  cases kind <;> simp [next?]

@[simp] lemma isSome_next?_part :
    (part.next? separated kind).isSome ↔
      (if separated then kind = .sequenceSeparator
        else kind = .identifier ∨ kind = .quotedLiteral) ∨
      kind = .alternativeSeparator ∨ kind = .ruleTerminator := by
  cases separated <;> cases kind <;> simp [next?]

@[simp] lemma isSome_next?_sequenceSeparator :
    (sequenceSeparator.next? separated kind).isSome ↔
      kind = .identifier ∨ kind = .quotedLiteral := by
  cases kind <;> simp [next?]

@[simp] lemma isSome_next?_ruleTerminator :
    (ruleTerminator.next? separated kind).isSome ↔ kind = .identifier ∨ kind = .endOfInput := by
  cases kind <;> simp [next?]

end Follow

variable {separated : Bool} {s s' : Stage} {lexeme : Lexeme} {lexemes others : List Lexeme}

@[simp] lemma run?_nil : s.run? separated [] = some s :=
  rfl

lemma run?_cons (h : s.next? separated lexeme.kind = some s') :
    s.run? separated (lexeme :: lexemes) = s'.run? separated lexemes := by
  rw [run?, List.foldlM_cons, h]
  rfl

lemma run?_cons_eq_some_iff :
    s.run? separated (lexeme :: lexemes) = some s' ↔
      ∃ s₁, s.next? separated lexeme.kind = some s₁ ∧ s₁.run? separated lexemes = some s' := by
  rw [run?, List.foldlM_cons]
  exact Option.bind_eq_some_iff

lemma run?_append :
    s.run? separated (lexemes ++ others) =
      (s.run? separated lexemes).bind fun s => s.run? separated others :=
  List.foldlM_append

lemma run?_append_of_eq (h : s.run? separated lexemes = some s') :
    s.run? separated (lexemes ++ others) = s'.run? separated others := by
  rw [run?_append, h]
  rfl

lemma run?_concat :
    s.run? separated (lexemes ++ [lexeme]) =
      (s.run? separated lexemes).bind fun s => s.next? separated lexeme.kind := by
  rw [run?_append]
  refine congrArg (Option.bind _) (funext fun s => ?_)
  simp [run?]

/-- A choice can end here. -/
def EndsChoice (s : Stage) : Prop :=
  s = .opening ∨ s = .epsilonMarker ∨ s = .part

lemma EndsChoice.next? (h : s.EndsChoice) :
    s.next? separated .alternativeSeparator = some .opening ∧
      s.next? separated .ruleTerminator = some .ruleTerminator := by
  rcases h with rfl | rfl | rfl <;> exact ⟨rfl, rfl⟩

/-! ### Stages on the frontier of a tree -/

lemma next?_partLexeme (t : PartTree) (hs : s = .opening ∨ s = .sequenceSeparator) :
    s.next? separated t.lexeme.kind = some .part := by
  rcases hs with rfl | rfl <;> cases t <;> rfl

lemma run?_frontierAfter (trees : List PartTree) :
    Stage.part.run? separated (PartTree.frontierAfter separated trees) = some .part := by
  induction trees with
  | nil => rfl
  | cons t trees ih =>
    have ht : Stage.part.run? separated
        (if separated then [.sequenceSeparator, t.lexeme] else [t.lexeme]) = some .part := by
      cases separated <;> cases t <;> rfl
    exact (run?_append_of_eq ht).trans ih

lemma run?_choice (separated : Bool) (t : ChoiceTree) :
    ∃ s, Stage.opening.run? separated (t.frontier separated) = some s ∧ s.EndsChoice := by
  cases t with
  | epsilonMarker => exact ⟨.epsilonMarker, rfl, .inr (.inl rfl)⟩
  | parts trees =>
    cases trees with
    | nil => exact ⟨.opening, by cases separated <;> rfl, .inl rfl⟩
    | cons t trees =>
      refine ⟨.part, ?_, .inr (.inr rfl)⟩
      rw [ChoiceTree.frontier_parts_cons, run?_cons (next?_partLexeme t (.inl rfl)), run?_frontierAfter]

lemma run?_choices (separated : Bool) (trees : List ChoiceTree) (hs : s.EndsChoice) :
    ∃ s', s.run? separated (trees.flatMap fun t => .alternativeSeparator :: t.frontier separated) =
      some s' ∧ s'.EndsChoice := by
  induction trees generalizing s with
  | nil => exact ⟨s, rfl, hs⟩
  | cons t trees ih =>
    obtain ⟨s₁, hfirst, hs₁⟩ := run?_choice separated t
    obtain ⟨s₂, hrest, hs₂⟩ := ih hs₁
    refine ⟨s₂, ?_, hs₂⟩
    rw [List.flatMap_cons, List.cons_append, run?_cons hs.next?.1, run?_append_of_eq hfirst, hrest]

lemma run?_rule (t : RuleTree) (hs : s = .start ∨ s = .ruleTerminator) :
    s.run? separated (t.frontier separated) = some .ruleTerminator := by
  obtain ⟨s₁, hfirst, hs₁⟩ := run?_choice separated t.definition.first
  obtain ⟨s₂, hothers, hs₂⟩ := run?_choices separated t.definition.others hs₁
  have hname : s.next? separated (Lexeme.identifier t.name).kind = some .ruleName := by
    rcases hs with rfl | rfl <;> rfl
  rw [RuleTree.frontier, DefinitionTree.frontier, List.cons_append, List.cons_append,
    List.append_assoc, run?_cons hname, run?_cons rfl, run?_append_of_eq hfirst,
    run?_append_of_eq hothers, run?_cons hs₂.next?.2, run?_nil]

lemma run?_rules (trees : List RuleTree) :
    Stage.ruleTerminator.run? separated (trees.flatMap (RuleTree.frontier separated)) =
      some .ruleTerminator := by
  induction trees with
  | nil => rfl
  | cons t trees ih =>
    rw [List.flatMap_cons, run?_append_of_eq (run?_rule t (.inr rfl)), ih]

lemma run?_grammar (separated : Bool) (t : GrammarTree) :
    Stage.start.run? separated (t.frontier separated ++ [.endOfInput]) = some .endOfInput := by
  rw [GrammarTree.frontier, List.flatMap_cons, List.append_assoc,
    run?_append_of_eq (run?_rule t.first (.inl rfl)), run?_append_of_eq (run?_rules t.others)]
  rfl

/-! ### Trees from stages -/

/-- What trees derive after a stage, up to the end of the input. -/
inductive Derives (separated : Bool) : Stage → List Lexeme → Prop
  | endOfInput : Derives separated .endOfInput []
  | ruleTerminator (trees : List RuleTree) :
      Derives separated .ruleTerminator
        (trees.flatMap (RuleTree.frontier separated) ++ [.endOfInput])
  | epsilonMarker (trees : List ChoiceTree) {lexemes : List Lexeme}
      (h : Derives separated .ruleTerminator lexemes) :
      Derives separated .epsilonMarker
        ((trees.flatMap fun t => .alternativeSeparator :: t.frontier separated) ++
          .ruleTerminator :: lexemes)
  | part (trees : List PartTree) {lexemes : List Lexeme}
      (h : Derives separated .epsilonMarker lexemes) :
      Derives separated .part (PartTree.frontierAfter separated trees ++ lexemes)
  | sequenceSeparator (t : PartTree) {lexemes : List Lexeme} (h : Derives separated .part lexemes) :
      Derives separated .sequenceSeparator (t.lexeme :: lexemes)
  | opening (t : ChoiceTree) {lexemes : List Lexeme} (h : Derives separated .epsilonMarker lexemes) :
      Derives separated .opening (t.frontier separated ++ lexemes)
  | ruleName {lexemes : List Lexeme} (h : Derives separated .opening lexemes) :
      Derives separated .ruleName (.ruleAssign :: lexemes)
  | start (t : GrammarTree) : Derives separated .start (t.frontier separated ++ [.endOfInput])

lemma derives_opening (h : Derives separated .epsilonMarker lexemes) :
    Derives separated .opening lexemes := by
  have hempty : (ChoiceTree.parts []).frontier separated = [] := by cases separated <;> rfl
  have hopening := Derives.opening (.parts []) h
  rwa [hempty] at hopening

/-- A choice ends before a separator of alternatives and before the end of its rule. -/
lemma derives_cons_of_endsChoice (hs : s.EndsChoice)
    (hlexeme : lexeme = .alternativeSeparator ∨ lexeme = .ruleTerminator)
    (h : s.next? separated lexeme.kind = some s') (hrest : Derives separated s' lexemes) :
    Derives separated s (lexeme :: lexemes) := by
  -- After the marker nothing of its choice can follow, so what does follows any choice that ends.
  have hmarker : ∀ lexemes, Derives separated .epsilonMarker lexemes →
      Derives separated s lexemes := by
    intro lexemes hlexemes
    rcases hs with rfl | rfl | rfl
    · exact derives_opening hlexemes
    · exact hlexemes
    · exact .part [] hlexemes
  apply hmarker
  rcases hlexeme with rfl | rfl
  · rw [Lexeme.kind, hs.next?.1] at h
    cases h
    rcases hrest with _ | _ | _ | _ | _ | @⟨t, _, hrest⟩
    cases hrest with
    | epsilonMarker trees hrest =>
      simpa using Derives.epsilonMarker (t :: trees) hrest
  · rw [Lexeme.kind, hs.next?.2] at h
    cases h
    exact .epsilonMarker [] hrest

lemma exists_rule_of_derives (name : Name) (h : Derives separated .ruleName lexemes) :
    ∃ (t : RuleTree) (trees : List RuleTree), t.frontier separated ++
      (trees.flatMap (RuleTree.frontier separated) ++ [.endOfInput]) = .identifier name :: lexemes := by
  rcases h with _ | _ | _ | _ | _ | _ | @⟨_, hopening⟩
  rcases hopening with _ | _ | _ | _ | _ | @⟨first, _, hmarker⟩
  rcases hmarker with _ | _ | @⟨others, _, hend⟩
  rcases hend with _ | ⟨trees⟩
  exact ⟨⟨name, first, others⟩, trees, by simp [RuleTree.frontier, DefinitionTree.frontier]⟩

lemma derives_cons_of_rule (name : Name) (h : Derives separated .ruleName lexemes) :
    Derives separated .start (.identifier name :: lexemes) ∧
      Derives separated .ruleTerminator (.identifier name :: lexemes) := by
  obtain ⟨t, trees, ht⟩ := exists_rule_of_derives name h
  rw [← ht, ← List.append_assoc, ← List.flatMap_cons]
  exact ⟨.start ⟨t, trees⟩, .ruleTerminator (t :: trees)⟩

lemma derives_cons_of_part (t : PartTree) (h : Derives separated .part lexemes) :
    Derives separated .opening (t.lexeme :: lexemes) ∧
      (separated = false → Derives separated .part (t.lexeme :: lexemes)) ∧
      (separated = true → Derives separated .part (.sequenceSeparator :: t.lexeme :: lexemes)) := by
  rcases h with _ | _ | _ | @⟨trees, _, hmarker⟩
  refine ⟨?_, ?_, ?_⟩
  · have hopening := Derives.opening (.parts (t :: trees)) hmarker
    rwa [ChoiceTree.frontier_parts_cons] at hopening
  · rintro rfl
    exact .part (t :: trees) hmarker
  · rintro rfl
    exact .part (t :: trees) hmarker

/-- One lexeme forward in what trees derive is one stage forward. -/
lemma derives_cons (h : s.next? separated lexeme.kind = some s')
    (hrest : Derives separated s' lexemes) : Derives separated s (lexeme :: lexemes) := by
  -- One case for each step between stages; the others have no stage `s'`.
  cases s with
  | start =>
    cases lexeme with
    | identifier name =>
      cases h
      exact (derives_cons_of_rule name hrest).1
    | _ => cases h
  | ruleName =>
    cases lexeme with
    | ruleAssign =>
      cases h
      exact .ruleName hrest
    | _ => cases h
  | opening =>
    cases lexeme with
    | identifier name =>
      cases h
      exact (derives_cons_of_part (.identifier name) hrest).1
    | quotedLiteral text =>
      cases h
      exact (derives_cons_of_part (.literal text) hrest).1
    | epsilonMarker =>
      cases h
      exact .opening .epsilonMarker hrest
    | alternativeSeparator => exact derives_cons_of_endsChoice (.inl rfl) (.inl rfl) h hrest
    | ruleTerminator => exact derives_cons_of_endsChoice (.inl rfl) (.inr rfl) h hrest
    | _ => cases h
  | epsilonMarker =>
    cases lexeme with
    | alternativeSeparator => exact derives_cons_of_endsChoice (.inr (.inl rfl)) (.inl rfl) h hrest
    | ruleTerminator => exact derives_cons_of_endsChoice (.inr (.inl rfl)) (.inr rfl) h hrest
    | _ => cases h
  | part =>
    cases lexeme with
    | identifier name =>
      cases separated <;> cases h
      exact (derives_cons_of_part (.identifier name) hrest).2.1 rfl
    | quotedLiteral text =>
      cases separated <;> cases h
      exact (derives_cons_of_part (.literal text) hrest).2.1 rfl
    | sequenceSeparator =>
      cases separated <;> cases h
      rcases hrest with _ | _ | _ | _ | ⟨t, hpart⟩
      exact (derives_cons_of_part t hpart).2.2 rfl
    | alternativeSeparator => exact derives_cons_of_endsChoice (.inr (.inr rfl)) (.inl rfl) h hrest
    | ruleTerminator => exact derives_cons_of_endsChoice (.inr (.inr rfl)) (.inr rfl) h hrest
    | _ => cases h
  | sequenceSeparator =>
    cases lexeme with
    | identifier name =>
      cases h
      exact .sequenceSeparator (.identifier name) hrest
    | quotedLiteral text =>
      cases h
      exact .sequenceSeparator (.literal text) hrest
    | _ => cases h
  | ruleTerminator =>
    cases lexeme with
    | identifier name =>
      cases h
      exact (derives_cons_of_rule name hrest).2
    | endOfInput =>
      cases h
      cases hrest
      exact .ruleTerminator []
    | _ => cases h
  | endOfInput => cases lexeme <;> cases h

lemma exists_run?_endOfInput (separated : Bool) (s : Stage) :
    ∃ lexemes, s.run? separated lexemes = some .endOfInput := by
  let name : Name := ⟨[⟨[], rfl⟩], by simp⟩
  have hending : ∀ s : Stage, s.EndsChoice →
      s.run? separated [.ruleTerminator, .endOfInput] = some .endOfInput := by
    rintro _ (rfl | rfl | rfl) <;> rfl
  cases s with
  | start => exact ⟨[.identifier name, .ruleAssign, .ruleTerminator, .endOfInput], rfl⟩
  | ruleName => exact ⟨[.ruleAssign, .ruleTerminator, .endOfInput], rfl⟩
  | opening => exact ⟨_, hending _ (.inl rfl)⟩
  | epsilonMarker => exact ⟨_, hending _ (.inr (.inl rfl))⟩
  | part => exact ⟨_, hending _ (.inr (.inr rfl))⟩
  | sequenceSeparator => exact ⟨[.identifier name, .ruleTerminator, .endOfInput], rfl⟩
  | ruleTerminator => exact ⟨[.endOfInput], rfl⟩
  | endOfInput => exact ⟨[], rfl⟩

lemma derives_of_run? (h : s.run? separated lexemes = some .endOfInput) :
    Derives separated s lexemes := by
  induction lexemes generalizing s with
  | nil =>
    cases h
    exact .endOfInput
  | cons lexeme lexemes ih =>
    obtain ⟨s', hnext, hrest⟩ := run?_cons_eq_some_iff.mp h
    exact derives_cons hnext (ih hrest)

end Stage

/-- Lexemes are viable exactly when they lead to a stage. -/
theorem viable_iff {separated : Bool} {lexemes : List Lexeme} :
    Viable separated lexemes ↔ (Stage.start.run? separated lexemes).isSome := by
  constructor
  · rintro ⟨t, rest, hrest⟩
    have hrun := Stage.run?_grammar separated t
    rw [← hrest, Stage.run?_append] at hrun
    obtain ⟨s, hs, _⟩ := Option.bind_eq_some_iff.mp hrun
    rw [hs]
    rfl
  · intro h
    obtain ⟨s, hs⟩ := Option.isSome_iff_exists.mp h
    obtain ⟨rest, hrest⟩ := Stage.exists_run?_endOfInput separated s
    rw [← Stage.run?_append_of_eq hs] at hrest
    -- The stage has a way to the end, and what leads from the start to the end is a tree.
    generalize hall : lexemes ++ rest = all at hrest
    cases Stage.derives_of_run? hrest with
    | start t => exact ⟨t, rest, hall⟩

end TypedGrammar
