import Mathlib.Data.Set.List
import TypedGrammar.Proofs.YieldedTokens

/-!
# Parse trees of grammar source

Grammar source has a grammar of its own:

```text
grammar    := rule+
rule       := identifier ruleAssign definition ruleTerminator
definition := choice (alternativeSeparator choice)*
choice     := epsilonMarker | part*
part       := quotedLiteral | identifier
```

with a `sequenceSeparator` between any two parts of a choice in some dialects and none in others. A
parse tree of this grammar is a derivation; its frontier is what it derives. Source is read as a
grammar exactly when its tokens are the frontier of a tree, and it is read as the grammar that the
tree describes. No two trees have one frontier.
-/

namespace TypedGrammar

inductive PartTree where
  | literal (text : Line)
  | identifier (name : Name)

inductive ChoiceTree where
  | epsilonMarker
  | parts (trees : List PartTree)

structure DefinitionTree where
  first : ChoiceTree
  others : List ChoiceTree

structure RuleTree where
  name : Name
  definition : DefinitionTree

structure GrammarTree where
  first : RuleTree
  others : List RuleTree

/-! ### What trees derive -/

def PartTree.lexeme : PartTree → Lexeme
  | .literal text => .quotedLiteral text
  | .identifier name => .identifier name

def ChoiceTree.frontier (separated : Bool) : ChoiceTree → List Lexeme
  | .epsilonMarker => [.epsilonMarker]
  | .parts trees =>
    if separated then (trees.map PartTree.lexeme).intersperse .sequenceSeparator
    else trees.map PartTree.lexeme

def DefinitionTree.frontier (separated : Bool) (t : DefinitionTree) : List Lexeme :=
  t.first.frontier separated ++
    t.others.flatMap fun choice => .alternativeSeparator :: choice.frontier separated

def RuleTree.frontier (separated : Bool) (t : RuleTree) : List Lexeme :=
  .identifier t.name :: .ruleAssign :: t.definition.frontier separated ++ [.ruleTerminator]

/-- The lexemes that the grammar derives. -/
def GrammarTree.frontier (separated : Bool) (t : GrammarTree) : List Lexeme :=
  (t.first :: t.others).flatMap (RuleTree.frontier separated)

/-! ### What trees describe -/

def PartTree.toPart : PartTree → Part
  | .literal text => .literal text
  | .identifier name => .reference name

def ChoiceTree.toAlternative : ChoiceTree → Alternative
  | .epsilonMarker => [.epsilon]
  | .parts trees => trees.map PartTree.toPart

def DefinitionTree.toDefinition (t : DefinitionTree) : Definition :=
  ⟨(t.first :: t.others).map ChoiceTree.toAlternative, by simp⟩

def RuleTree.toRule (t : RuleTree) : Rule :=
  ⟨t.name, t.definition.toDefinition⟩

/-- The grammar that the tree describes. -/
def GrammarTree.toGrammar (t : GrammarTree) : Grammar :=
  ⟨(t.first :: t.others).map RuleTree.toRule, by simp⟩

/-! ### Trees and the grammars they describe -/

lemma PartTree.lexeme_toPart (t : PartTree) : t.toPart.lexeme = t.lexeme := by
  cases t <;> rfl

lemma ChoiceTree.lexemes_toAlternative (separated : Bool) (t : ChoiceTree) :
    Alternative.lexemes separated t.toAlternative = t.frontier separated := by
  cases t with
  | epsilonMarker => exact Alternative.lexemes_singleton separated .epsilon
  | parts trees =>
    simp [Alternative.lexemes, toAlternative, frontier, Function.comp_def, PartTree.lexeme_toPart]

lemma DefinitionTree.lexemes_toDefinition (separated : Bool) (t : DefinitionTree) :
    t.toDefinition.lexemes separated = t.frontier separated := by
  simp [Definition.lexemes, toDefinition, frontier, ChoiceTree.lexemes_toAlternative,
    List.flatMap_map]

lemma RuleTree.lexemes_toRule (separated : Bool) (t : RuleTree) :
    t.toRule.lexemes separated = t.frontier separated := by
  simp [Rule.lexemes, toRule, frontier, DefinitionTree.lexemes_toDefinition]

lemma GrammarTree.lexemes_toGrammar (separated : Bool) (t : GrammarTree) :
    t.toGrammar.lexemes separated = t.frontier separated := by
  simp [Grammar.lexemes, toGrammar, frontier, List.flatMap_map, RuleTree.lexemes_toRule]

lemma PartTree.toPart_ne_epsilon (t : PartTree) : t.toPart ≠ .epsilon := by
  cases t <;> simp [toPart]

lemma ChoiceTree.epsilonAlone_toAlternative (t : ChoiceTree) :
    Alternative.EpsilonAlone t.toAlternative := by
  cases t with
  | epsilonMarker => exact fun _ => rfl
  | parts trees =>
    intro hmem
    obtain ⟨t, _, ht⟩ := List.mem_map.mp hmem
    exact absurd ht t.toPart_ne_epsilon

lemma GrammarTree.epsilonAlone_toGrammar (t : GrammarTree) : t.toGrammar.EpsilonAlone := by
  intro r hr a ha
  obtain ⟨rule, _, rfl⟩ := List.mem_map.mp hr
  obtain ⟨choice, _, rfl⟩ := List.mem_map.mp ha
  exact choice.epsilonAlone_toAlternative

lemma PartTree.toPart_injective : Function.Injective PartTree.toPart := by
  intro t t' h
  cases t <;> cases t' <;> cases h <;> rfl

lemma ChoiceTree.toAlternative_injective : Function.Injective ChoiceTree.toAlternative := by
  have hparts : ∀ trees : List PartTree, trees.map PartTree.toPart ≠ [.epsilon] := by
    intro trees h
    obtain ⟨t, _, ht⟩ := List.map_eq_singleton_iff.mp h
    exact t.toPart_ne_epsilon ht
  intro t t' h
  cases t with
  | epsilonMarker =>
    cases t' with
    | epsilonMarker => rfl
    | parts trees => exact absurd h.symm (hparts trees)
  | parts trees =>
    cases t' with
    | epsilonMarker => exact absurd h (hparts trees)
    | parts trees' => rw [PartTree.toPart_injective.list_map h]

lemma DefinitionTree.toDefinition_injective :
    Function.Injective DefinitionTree.toDefinition := by
  rintro ⟨first, others⟩ ⟨first', others'⟩ h
  have hlist := ChoiceTree.toAlternative_injective.list_map (congrArg Definition.alternatives h)
  cases hlist
  rfl

lemma RuleTree.toRule_injective : Function.Injective RuleTree.toRule := by
  rintro ⟨name, d⟩ ⟨name', d'⟩ h
  obtain ⟨hname, hd⟩ := Rule.mk.inj h
  exact congrArg₂ RuleTree.mk hname (DefinitionTree.toDefinition_injective hd)

lemma GrammarTree.toGrammar_injective : Function.Injective GrammarTree.toGrammar := by
  rintro ⟨first, others⟩ ⟨first', others'⟩ h
  have hlist := RuleTree.toRule_injective.list_map (congrArg Grammar.rules h)
  cases hlist
  rfl

/-! ### Grammars that trees describe -/

lemma ChoiceTree.exists_toAlternative {a : Alternative} (h : Alternative.EpsilonAlone a) :
    ∃ t : ChoiceTree, t.toAlternative = a := by
  by_cases hmem : .epsilon ∈ a
  · exact ⟨.epsilonMarker, (h hmem).symm⟩
  · have hparts : ∃ trees : List PartTree, trees.map PartTree.toPart = a := by
      rw [← Set.mem_range, Set.range_list_map]
      intro part hpart
      cases part with
      | literal text => exact ⟨.literal text, rfl⟩
      | reference name => exact ⟨.identifier name, rfl⟩
      | epsilon => exact absurd hpart hmem
    obtain ⟨trees, htrees⟩ := hparts
    exact ⟨.parts trees, htrees⟩

lemma RuleTree.exists_toRule {r : Rule} (h : ∀ a ∈ r.alternatives, Alternative.EpsilonAlone a) :
    ∃ t : RuleTree, t.toRule = r := by
  obtain ⟨name, alternatives, hne⟩ := r
  have hchoices : ∃ trees : List ChoiceTree, trees.map ChoiceTree.toAlternative = alternatives := by
    rw [← Set.mem_range, Set.range_list_map]
    exact fun a ha => ChoiceTree.exists_toAlternative (h a ha)
  obtain ⟨trees, rfl⟩ := hchoices
  cases trees with
  | nil => exact absurd rfl hne
  | cons first others => exact ⟨⟨name, first, others⟩, rfl⟩

/-- Every grammar in which the empty part stands alone is described by a tree. -/
lemma GrammarTree.exists_toGrammar {g : Grammar} (h : g.EpsilonAlone) :
    ∃ t : GrammarTree, t.toGrammar = g := by
  obtain ⟨rules, hne⟩ := g
  have hrules : ∃ trees : List RuleTree, trees.map RuleTree.toRule = rules := by
    rw [← Set.mem_range, Set.range_list_map]
    exact fun r hr => RuleTree.exists_toRule (h r hr)
  obtain ⟨trees, rfl⟩ := hrules
  cases trees with
  | nil => exact absurd rfl hne
  | cons first others => exact ⟨⟨first, others⟩, rfl⟩

/-! ### Trees and what is read -/

/-- Two grammars that are written as the same lexemes are one, because a parser that moves over the
lexemes reads both. -/
lemma Grammar.lexemes_injective {g g' : Grammar} {separated : Bool} (hg : g.EpsilonAlone)
    (hg' : g'.EpsilonAlone) (h : g.lexemes separated = g'.lexemes separated) : g = g' := by
  let s : TokenStream := ⟨(g.lexemes separated).map (⟨·, .start⟩), .endOfInput .start⟩
  have hholds : s.Holds (g.lexemes separated) := ⟨by simp [s, Function.comp_def], .start, rfl⟩
  obtain ⟨token, ahead, q, _, hpasses, hend⟩ := passes_of_holds hholds separated
  have hread := Parser.grammar_of_passes hpasses hg hend
  rw [h] at hpasses
  cases hread.symm.trans (Parser.grammar_of_passes hpasses hg' hend)
  rfl

/-- No two trees have one frontier. -/
theorem GrammarTree.frontier_injective (separated : Bool) :
    Function.Injective (GrammarTree.frontier separated) := by
  intro t t' h
  rw [← lexemes_toGrammar, ← lexemes_toGrammar] at h
  exact toGrammar_injective
    (Grammar.lexemes_injective t.epsilonAlone_toGrammar t'.epsilonAlone_toGrammar h)

lemma GrammarTree.exists_frontier_cons (separated : Bool) (t : GrammarTree) :
    ∃ rest, t.frontier separated = .identifier t.first.name :: rest :=
  ⟨_, rfl⟩

lemma GrammarTree.endOfInput_not_mem_frontier (separated : Bool) (t : GrammarTree) :
    .endOfInput ∉ t.frontier separated := by
  rw [← lexemes_toGrammar]
  exact endOfInput_not_mem_lexemes _ _

/-- Tokens that a tree derives make up the stream when the lexer yields them up to the end. -/
lemma GrammarTree.holds_of_yields {l after : Lexer} {tokens : List Token} {last : Token}
    {separated : Bool} {t : GrammarTree} (hyields : l.Yields (tokens ++ [last]) after)
    (hlast : last.lexeme = .endOfInput) (ht : t.frontier separated = tokens.map Token.lexeme) :
    l.stream.Holds (t.frontier separated) := by
  obtain ⟨next, htokens, hend⟩ := Lexer.yields_append_iff.mp hyields
  have hd : l.dialect.Delimited := by
    obtain ⟨rest, hrest⟩ := t.exists_frontier_cons separated
    rw [hrest] at ht
    obtain ⟨first, others, rfl, hfirst, _⟩ := List.map_eq_cons_iff.mp ht.symm
    rcases htokens with _ | ⟨hnext, _⟩
    exact Lexer.delimited_of_part? hnext (by rw [hfirst]; rfl)
  have hne : ∀ token ∈ tokens, token.lexeme ≠ .endOfInput := by
    intro token htoken hlexeme
    apply t.endOfInput_not_mem_frontier separated
    rw [ht, ← hlexeme]
    exact List.mem_map_of_mem htoken
  have hstream : next.stream = ⟨[], .endOfInput last.position⟩ := by
    rcases hend with _ | ⟨hnext, _⟩
    obtain ⟨lexeme, position⟩ := last
    obtain rfl := hlast
    exact Lexer.stream_of_endOfInput hnext
  rw [htokens.tokens_stream hd hne, hstream]
  exact ⟨by simp [ht], last.position, rfl⟩

/-- Source is read as a grammar exactly when the lexer yields tokens without an error up to the end of
the input and these derive from the grammar of grammars; what is read is the grammar that their one
derivation describes. -/
theorem parse_eq_ok_iff_exists_tree (d : Dialect) (source : List Char) (g : Grammar) :
    Grammar.parse d source = .ok g ↔
      ∃ tokens last after, (Lexer.ofSource d source).Yields (tokens ++ [last]) after ∧
        last.lexeme = .endOfInput ∧
        ∃ t : GrammarTree, t.frontier d.concatenation.isSome = tokens.map Token.lexeme ∧
          (∀ t' : GrammarTree,
            t'.frontier d.concatenation.isSome = tokens.map Token.lexeme → t' = t) ∧
          t.toGrammar = g := by
  constructor
  · intro h
    cases hp : Parser.ofSource d source with
    | error error =>
      rw [Grammar.parse_of_error hp] at h
      cases h
    | ok p =>
      rw [Grammar.parse_of_ok hp] at h
      obtain ⟨hseparated, _, hfollows⟩ := Parser.follows_of_ofSource hp
      obtain ⟨hpasses, hend, hepsilon⟩ := Parser.passes_grammar (Prod.ext h rfl)
      obtain ⟨t, rfl⟩ := GrammarTree.exists_toGrammar hepsilon
      rw [hseparated, GrammarTree.lexemes_toGrammar] at hpasses
      have hfirst : p.current.lexeme = .identifier t.first.name :=
        (Parser.passes_cons_iff.mp hpasses).1
      obtain ⟨hd, hfollows⟩ := hfollows (by rw [hfirst]; rfl)
      obtain ⟨tokens, next, hyields, htokens, after, hnext, _⟩ :=
        hpasses.yields hd hfollows (t.endOfInput_not_mem_frontier _)
      refine ⟨tokens, p.grammar.2.current, after, hyields.append (.cons hnext .nil), hend, t,
        htokens.symm, fun t' ht' => ?_, rfl⟩
      exact GrammarTree.frontier_injective _ (ht'.trans htokens)
  · rintro ⟨tokens, last, after, hyields, hlast, t, ht, _, rfl⟩
    refine Grammar.parse_eq_ok_iff.mpr ⟨?_, t.epsilonAlone_toGrammar⟩
    rw [GrammarTree.lexemes_toGrammar]
    exact GrammarTree.holds_of_yields hyields hlast ht

end TypedGrammar
