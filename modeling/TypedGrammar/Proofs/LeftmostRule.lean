import Mathlib
import TypedGrammar.Proofs.ConstructionShape
import TypedGrammar.Proofs.LeftmostSymbol

/-!
# Leftmost rules

As a context-free grammar, a grammar rewrites a reference to the symbols of an alternative of its rule, where
empty parts are none. The left corners of a rule are found along the first parts of alternatives alone. Each
can come to stand leftmost, but so can a reference that is not first, when what stands before it vanishes. The
corners are all there is to find, and the recursion that they are asked for is never missed, where no reference
is exposed in this way.
-/

namespace TypedGrammar

namespace Recursion

variable {sides : List Side}

lemma left_mem_of_ofSides (h : ofSides sides = .left) : .left ∈ sides := by
  unfold ofSides at h
  split at h
  · cases h
  · rename_i hleft _ _
    exact List.contains_iff_mem.mp hleft
  all_goals cases h

lemma ofSides_of_left_mem (h : .left ∈ sides) : ofSides sides = .left ∨ ofSides sides = .mixed := by
  have hleft := List.contains_iff_mem.mpr h
  unfold ofSides
  rw [hleft]
  cases sides.contains .right <;> cases sides.contains .internal <;> simp

end Recursion

namespace Grammar

open Relation

variable {g : Grammar} {start : Option Name} {a b id owner : RuleId}

/-! ### Symbols of a grammar -/

/-- The symbol that the part stands for. The empty part stands for none. -/
def symbol? (g : Grammar) : Part → Option (Symbol Line RuleId)
  | .literal text => some (.terminal text)
  | .reference name => (g.find? name).map .nonterminal
  | .epsilon => none

def symbols (g : Grammar) (parts : List Part) : List (Symbol Line RuleId) :=
  parts.filterMap g.symbol?

/-- One rule of rewriting for each alternative. -/
def rewritingRules (g : Grammar) : List (ContextFreeRule Line RuleId) :=
  g.rules.zipIdx.flatMap fun (r, id) => r.alternatives.map fun a => ⟨id, g.symbols a⟩

/-- The grammar as one that rewrites the place of a rule to the symbols of one of its alternatives. -/
abbrev contextFree (g : Grammar) : ContextFreeGrammar Line where
  NT := RuleId
  initial := 0
  rules := g.rewritingRules.toFinset

/-- The parts can be rewritten to nothing. -/
def Vanishes (g : Grammar) (parts : List Part) : Prop :=
  g.contextFree.Derives (g.symbols parts) []

/-- Some alternative of the rule `a` refers to the rule `b` behind nothing but parts that vanish. -/
def Exposes (g : Grammar) : RuleId → RuleId → Prop :=
  RefersAtPlace (fun a place => g.Vanishes (a.take place)) g.rules g.find?

/-- Some alternative of the rule `a` begins with a reference to the rule `b`. -/
def LeftCorner (g : Grammar) : RuleId → RuleId → Prop :=
  RefersAtPlace (fun _ place => place = 0) g.rules g.find?

/-- References that stand behind nothing but parts that vanish stand first. -/
def Fronted (g : Grammar) : Prop :=
  ∀ r ∈ g.rules, ∀ a ∈ r.alternatives, ∀ place name, a[place]? = some (.reference name) →
    g.Vanishes (a.take place) → place = 0

lemma mem_rules_contextFree_iff {output : List (Symbol Line RuleId)} :
    ⟨id, output⟩ ∈ g.contextFree.rules ↔ ∃ r alternative, g.rules[id]? = some r ∧
      alternative ∈ r.alternatives ∧ g.symbols alternative = output := by
  simp only [rewritingRules, List.mem_toFinset, List.mem_flatMap, List.mem_map, Prod.exists,
    List.mem_zipIdx_iff_getElem?, ContextFreeRule.mk.injEq]
  constructor
  · rintro ⟨r, _, hr, alternative, ha, rfl, rfl⟩
    exact ⟨r, alternative, hr, ha, rfl⟩
  · rintro ⟨r, alternative, hr, ha, rfl⟩
    exact ⟨r, id, hr, alternative, ha, rfl, rfl⟩

lemma symbol?_eq_nonterminal_iff {part : Part} : g.symbol? part = some (.nonterminal b) ↔
    ∃ name, part = .reference name ∧ g.find? name = some b := by
  cases part <;> simp [symbol?]

lemma symbols_append (g : Grammar) (parts parts' : List Part) :
    g.symbols (parts ++ parts') = g.symbols parts ++ g.symbols parts' :=
  List.filterMap_append

/-- What stands behind nothing but vanishing symbols is a reference behind nothing but vanishing parts. -/
lemma exists_front_iff {parts : List Part} :
    (∃ front back : List (Symbol Line RuleId), g.symbols parts = front ++ .nonterminal b :: back ∧
      g.contextFree.Derives front []) ↔
    ∃ place name, parts[place]? = some (.reference name) ∧ g.find? name = some b ∧
      g.Vanishes (parts.take place) := by
  constructor
  · rintro ⟨front, back, hsymbols, hfront⟩
    obtain ⟨before, after, rfl, rfl, hafter⟩ := List.filterMap_eq_append_iff.mp hsymbols
    obtain ⟨silent, part, rest, rfl, hsilent, hpart, -⟩ := List.filterMap_eq_cons_iff.mp hafter
    obtain ⟨name, rfl, hname⟩ := symbol?_eq_nonterminal_iff.mp hpart
    refine ⟨(before ++ silent).length, name, by simp, hname, ?_⟩
    have hnone : g.symbols silent = [] := List.filterMap_eq_nil_iff.mpr hsilent
    rw [← List.append_assoc, List.take_left, Vanishes, symbols_append, hnone, List.append_nil]
    exact hfront
  · rintro ⟨place, name, hpart, hname, hvanishes⟩
    refine ⟨g.symbols (parts.take place), g.symbols (parts.drop (place + 1)), ?_, hvanishes⟩
    obtain ⟨hlt, hget⟩ := List.getElem?_eq_some_iff.mp hpart
    have hsymbol : g.symbols [.reference name] = [.nonterminal b] :=
      List.filterMap_cons_some (symbol?_eq_nonterminal_iff.mpr ⟨name, rfl, hname⟩)
    rw [← List.singleton_append, ← hsymbol, ← symbols_append, ← symbols_append,
      List.singleton_append, ← hget, ← List.drop_eq_getElem_cons hlt, List.take_append_drop]

lemma exposes_contextFree_iff : g.contextFree.Exposes a b ↔ g.Exposes a b := by
  constructor
  · rintro ⟨front, back, hrule, hfront⟩
    obtain ⟨r, alternative, hr, ha, hsymbols⟩ := mem_rules_contextFree_iff.mp hrule
    obtain ⟨place, name, hpart, hname, hvanishes⟩ := exists_front_iff.mp ⟨front, back, hsymbols, hfront⟩
    exact ⟨r, alternative, place, name, hr, ha, hvanishes, hpart, hname⟩
  · rintro ⟨r, alternative, place, name, hr, ha, hvanishes, hpart, hname⟩
    obtain ⟨front, back, hsymbols, hfront⟩ := exists_front_iff.mpr ⟨place, name, hpart, hname, hvanishes⟩
    exact ⟨front, back, mem_rules_contextFree_iff.mpr ⟨r, alternative, hr, ha, hsymbols⟩, hfront⟩

/-! ### What can be exposed -/

lemma path_contextFree_iff :
    ReflTransGen g.contextFree.Exposes a b ↔ ReflTransGen g.Exposes a b := by
  have hexposes : g.contextFree.Exposes = g.Exposes := by
    funext a b
    exact propext exposes_contextFree_iff
  rw [hexposes]

/-- The rules that a rule can come to begin with are those that it exposes, step by step. -/
lemma beginsWith_rule_iff :
    g.contextFree.BeginsWith [.nonterminal a] b ↔ ReflTransGen g.Exposes a b := by
  rw [ContextFreeGrammar.beginsWith_iff, ContextFreeGrammar.opens_cons_iff, ← path_contextFree_iff]
  constructor
  · rintro (⟨c, hc, hpath⟩ | ⟨_, front, c, back, hnil, _⟩)
    · cases hc
      exact hpath
    · simp at hnil
  · exact fun hpath => .inl ⟨a, rfl, hpath⟩

/-- An alternative can come to begin with the rules that are exposed by a rule which a part behind nothing but
vanishing ones refers to. -/
lemma beginsWith_symbols_iff {parts : List Part} :
    g.contextFree.BeginsWith (g.symbols parts) b ↔
      ∃ place name target, parts[place]? = some (.reference name) ∧ g.Vanishes (parts.take place) ∧
        g.find? name = some target ∧ ReflTransGen g.Exposes target b := by
  rw [ContextFreeGrammar.beginsWith_iff]
  constructor
  · rintro ⟨front, target, back, hsymbols, hfront, hpath⟩
    obtain ⟨place, name, hpart, hname, hvanishes⟩ := exists_front_iff.mp ⟨front, back, hsymbols, hfront⟩
    exact ⟨place, name, target, hpart, hvanishes, hname, path_contextFree_iff.mp hpath⟩
  · rintro ⟨place, name, target, hpart, hvanishes, hname, hpath⟩
    obtain ⟨front, back, hsymbols, hfront⟩ := exists_front_iff.mpr ⟨place, name, hpart, hname, hvanishes⟩
    exact ⟨front, target, back, hsymbols, hfront, path_contextFree_iff.mpr hpath⟩

/-! ### Left corners -/

lemma traces_leftCorners (g : Grammar) :
    (RuleGraph.leftCorners g.rules g.find?).Traces g.size g.LeftCorner :=
  RuleGraph.traces_ofParts Alternative.mem_take_one_iff fun _ _ hname => lt_of_find? hname

lemma LeftCorner.exposes (h : g.LeftCorner a b) : g.Exposes a b := by
  obtain ⟨r, alternative, _, name, hr, ha, rfl, hpart, hname⟩ := h
  exact ⟨r, alternative, 0, name, hr, ha, .refl [], hpart, hname⟩

lemma LeftCorner.refers (h : g.LeftCorner a b) : g.Refers a b := by
  obtain ⟨r, alternative, place, name, hr, ha, _, hpart, hname⟩ := h
  exact ⟨r, alternative, place, name, hr, ha, trivial, hpart, hname⟩

lemma Fronted.leftCorner (hg : g.Fronted) (h : g.Exposes a b) : g.LeftCorner a b := by
  obtain ⟨r, alternative, place, name, hr, ha, hvanishes, hpart, hname⟩ := h
  have hplace := hg r (List.mem_of_getElem? hr) alternative ha place name hpart hvanishes
  exact ⟨r, alternative, place, name, hr, ha, hplace, hpart, hname⟩

lemma lt_of_exposes (h : g.Exposes a b) : a < g.size := by
  obtain ⟨r, _, _, _, hr, _⟩ := h
  exact (List.getElem?_eq_some_iff.mp hr).1

lemma path_of_leftCorners (h : ReflTransGen g.LeftCorner a b) : ReflTransGen g.Exposes a b :=
  ReflTransGen.mono (fun _ _ => LeftCorner.exposes) a b h

lemma reaches_leftCorners_iff (ha : a < g.size) :
    (RuleGraph.leftCorners g.rules g.find?).reaches a b = true ↔ ReflTransGen g.LeftCorner a b :=
  g.traces_leftCorners.reaches_iff a ha b

/-- The left corners miss nothing when they lead to whatever is exposed in one step. -/
lemma forall_reaches_iff :
    (∀ a < g.size, ∀ b, a ≠ b → ((RuleGraph.leftCorners g.rules g.find?).reaches a b = true ↔
      g.contextFree.BeginsWith [.nonterminal a] b)) ↔
    ∀ a b, a ≠ b → g.Exposes a b → (RuleGraph.leftCorners g.rules g.find?).reaches a b = true := by
  constructor
  · intro h a b hne hexposes
    exact (h a (lt_of_exposes hexposes) b hne).mpr (beginsWith_rule_iff.mpr (.single hexposes))
  · intro h a ha b _
    rw [reaches_leftCorners_iff ha, beginsWith_rule_iff]
    refine ⟨path_of_leftCorners, fun hpath => ?_⟩
    have hstep : ∀ c d, g.Exposes c d → ReflTransGen g.LeftCorner c d := by
      intro c d hexposes
      by_cases hcd : c = d
      · rw [hcd]
      · exact (reaches_leftCorners_iff (lt_of_exposes hexposes)).mp (h c d hcd hexposes)
    clear * - hstep hpath
    induction hpath with
    | refl => exact .refl
    | tail _ hexposes ih => exact ih.trans (hstep _ _ hexposes)

/-! ### Left recursion -/

lemma sideOf_eq_left_iff {graphs : ReferenceGraphs} {last position : ℕ} {target : RuleId} :
    sideOf graphs owner last position target = some .left ↔ graphs.all.reaches target owner = true ∧
      position = 0 ∧ graphs.left.reaches target owner = true := by
  unfold sideOf
  split
  · simp_all
  · split
    · simp_all
    · split <;> simp_all

/-- An alternative is recursive on the left when left corners lead back from what it begins with. -/
lemma left_mem_sides_iff {alternative : Alternative} :
    .left ∈ g.sides g.referenceGraphs owner alternative ↔
      ∃ name target, alternative[0]? = some (.reference name) ∧ g.find? name = some target ∧
        ReflTransGen g.LeftCorner target owner := by
  rw [mem_sides_iff]
  constructor
  · rintro ⟨position, part, target, hpart, htarget, hside⟩
    obtain ⟨_, rfl, hleft⟩ := sideOf_eq_left_iff.mp hside
    obtain ⟨name, hname, hfind⟩ := Option.bind_eq_some_iff.mp htarget
    cases part with
    | literal text => cases hname
    | epsilon => cases hname
    | reference other =>
      cases hname
      exact ⟨name, target, hpart, hfind, (reaches_leftCorners_iff (lt_of_find? hfind)).mp hleft⟩
  · rintro ⟨name, target, hpart, hfind, hpath⟩
    have hlt := lt_of_find? hfind
    have hall : ReflTransGen g.Refers target owner :=
      ReflTransGen.mono (fun _ _ => LeftCorner.refers) target owner hpath
    refine ⟨0, _, target, hpart, hfind, sideOf_eq_left_iff.mpr ⟨?_, rfl, ?_⟩⟩
    · exact (g.traces_referenceGraph.reaches_iff target hlt owner).mpr hall
    · exact (reaches_leftCorners_iff hlt).mpr hpath

/-- What the class of an alternative says of its recursion that comes back leftmost. -/
lemma classify_leftmost (g : Grammar) (owner : RuleId) (alternative : Alternative) :
    (g.classify g.referenceGraphs owner alternative = .left →
      g.contextFree.BeginsWith (g.symbols alternative) owner) ∧
    (g.Fronted → ∀ r ∈ g.rules, alternative ∈ r.alternatives →
      g.contextFree.BeginsWith (g.symbols alternative) owner →
        g.classify g.referenceGraphs owner alternative = .left ∨
          g.classify g.referenceGraphs owner alternative = .mixed) := by
  constructor
  · intro h
    obtain ⟨name, target, hpart, hfind, hpath⟩ :=
      left_mem_sides_iff.mp (Recursion.left_mem_of_ofSides h)
    exact beginsWith_symbols_iff.mpr
      ⟨0, name, target, hpart, .refl [], hfind, path_of_leftCorners hpath⟩
  · intro hg r hr ha hbegins
    obtain ⟨place, name, target, hpart, hvanishes, hfind, hpath⟩ := beginsWith_symbols_iff.mp hbegins
    obtain rfl := hg r hr alternative ha place name hpart hvanishes
    have hcorners : ReflTransGen g.LeftCorner target owner :=
      ReflTransGen.mono (fun _ _ => hg.leftCorner) target owner hpath
    exact Recursion.ofSides_of_left_mem (left_mem_sides_iff.mpr ⟨name, target, hpart, hfind, hcorners⟩)

/-- Left corners are leftmost rules. What they reach can come to stand leftmost, and they reach all that can
exactly if they reach whatever stands in an alternative behind nothing but parts that vanish. Where such parts
are nowhere in front of a reference, no recursion that comes back leftmost is missed in the classes of the
alternatives either, and an alternative that is classified as recursive on the left always comes back so. -/
theorem leftCorners_leftmost {analysis : Analysis} (h : g.analyze start = .ok analysis) :
    (∀ a < g.size, ∀ b, (RuleGraph.leftCorners g.rules g.find?).reaches a b = true →
      g.contextFree.BeginsWith [.nonterminal a] b) ∧
    ((∀ a < g.size, ∀ b, a ≠ b → ((RuleGraph.leftCorners g.rules g.find?).reaches a b = true ↔
        g.contextFree.BeginsWith [.nonterminal a] b)) ↔
      ∀ a b, a ≠ b → g.Exposes a b → (RuleGraph.leftCorners g.rules g.find?).reaches a b = true) ∧
    (g.Fronted → ∀ a < g.size, ∀ b, (RuleGraph.leftCorners g.rules g.find?).reaches a b = true ↔
      g.contextFree.BeginsWith [.nonterminal a] b) ∧
    ∀ (id i : ℕ) (r : Rule) (alternative : Alternative), g.rules[id]? = some r →
      r.alternatives[i]? = some alternative → ∃ c : Recursion, (analysis.recursion id)[i]? = some c ∧
        (c = .left → g.contextFree.BeginsWith (g.symbols alternative) id) ∧
        (g.Fronted → g.contextFree.BeginsWith (g.symbols alternative) id → c = .left ∨ c = .mixed) := by
  obtain ⟨rfl, _⟩ := analyze_eq_ok h
  refine ⟨fun a ha b => ?_, forall_reaches_iff, fun hg a ha b => ?_, fun id i r alternative hr hi => ?_⟩
  · rw [reaches_leftCorners_iff ha, beginsWith_rule_iff]
    exact path_of_leftCorners
  · rw [reaches_leftCorners_iff ha, beginsWith_rule_iff]
    exact ⟨path_of_leftCorners, ReflTransGen.mono (fun _ _ => hg.leftCorner) a b⟩
  · obtain ⟨hleft, hmissed⟩ := g.classify_leftmost id alternative
    refine ⟨_, ?_, hleft, fun hg => hmissed hg r (List.mem_of_getElem? hr) (List.mem_of_getElem? hi)⟩
    rw [recursion_analysis hr, List.getElem?_map, hi, Option.map_some]

/-- Where a first part is of a kind that does not vanish whenever something follows it, references that are
exposed stand first. -/
lemma fronted_of_solid (solid : Symbol Line RuleId → Prop)
    (hrules : ∀ rule ∈ g.rewritingRules, solid (.nonterminal rule.input) → ∃ x ∈ rule.output, solid x)
    (hfronts : ∀ r ∈ g.rules, ∀ a ∈ r.alternatives, 2 ≤ a.length →
      ∃ x ∈ g.symbols (a.take 1), solid x) :
    g.Fronted := by
  intro r hr a ha place name hpart hvanishes
  by_contra hplace
  obtain ⟨hlt, _⟩ := List.getElem?_eq_some_iff.mp hpart
  have hpos : 1 ≤ place := Nat.one_le_iff_ne_zero.mpr hplace
  obtain ⟨x, hx, hsolid⟩ := hfronts r hr a ha (Nat.lt_of_le_of_lt hpos hlt)
  have hfront : g.symbols (a.take 1) ⊆ g.symbols (a.take place) :=
    ((List.take_sublist_take_left hpos).filterMap _).subset
  refine ContextFreeGrammar.not_derives_nil (fun rule hrule => ?_) ⟨x, hfront hx, hsolid⟩ hvanishes
  exact hrules rule (List.mem_toFinset.mp hrule)

/-- Phrases of words that may be marked. A mark can vanish, but nothing follows it. -/
def markedWords : Grammar :=
  let phrase : Name := ⟨[⟨"phrase".toList, by decide⟩], by simp⟩
  let word : Name := ⟨[⟨"word".toList, by decide⟩], by simp⟩
  let mark : Name := ⟨[⟨"mark".toList, by decide⟩], by simp⟩
  { rules := [
      ⟨phrase, ⟨[[.reference word, .reference mark],
        [.reference phrase, .reference word, .reference mark]], by simp⟩⟩,
      ⟨word, ⟨[[.literal ⟨['w'], by decide⟩]], by simp⟩⟩,
      ⟨mark, ⟨[[.epsilon], [.literal ⟨['!'], by decide⟩]], by simp⟩⟩]
    rules_ne_nil := by simp }

theorem leftCorners_markedWords :
    markedWords.analyze none = .ok (markedWords.analysis 0) ∧ markedWords.Fronted ∧
      markedWords.contextFree.Derives [.nonterminal 2] [] ∧
      markedWords.contextFree.BeginsWith [.nonterminal 0] 1 ∧
      ¬ markedWords.contextFree.BeginsWith [.nonterminal 0] 2 ∧
      ((markedWords.analysis 0).recursion 0)[1]? = some .left ∧
      markedWords.contextFree.BeginsWith [.nonterminal 0, .nonterminal 1, .nonterminal 2] 0 := by
  have h : markedWords.analyze none = .ok (markedWords.analysis 0) := by cbv
  have hfronted : markedWords.Fronted :=
    fronted_of_solid (· ≠ .nonterminal 2) (by decide +kernel) (by decide +kernel)
  have hmark : markedWords.contextFree.Produces [.nonterminal 2] [] :=
    ⟨⟨2, []⟩, by decide +kernel, .input_output⟩
  have hclass : ((markedWords.analysis 0).recursion 0)[1]? = some .left := by decide +kernel
  obtain ⟨hsound, _, hcorners, hrecursion⟩ := leftCorners_leftmost h
  obtain ⟨c, hc, hleft, _⟩ := hrecursion 0 1 _ _ rfl rfl
  refine ⟨h, hfronted, hmark.single, hsound 0 (by decide) 1 (by decide +kernel), ?_, hclass, ?_⟩
  · rw [← hcorners hfronted 0 (by decide)]
    decide +kernel
  · exact hleft (Option.some.inj (hc.symm.trans hclass))

/-- A gap vanishes in front of a word, and in front of a word that begins with it. -/
def gappedWords : Grammar :=
  let phrase : Name := ⟨[⟨"phrase".toList, by decide⟩], by simp⟩
  let gap : Name := ⟨[⟨"gap".toList, by decide⟩], by simp⟩
  let word : Name := ⟨[⟨"word".toList, by decide⟩], by simp⟩
  { rules := [
      ⟨phrase, ⟨[[.reference gap, .reference word]], by simp⟩⟩,
      ⟨gap, ⟨[[.epsilon]], by simp⟩⟩,
      ⟨word, ⟨[[.reference gap, .reference word, .literal ⟨['+'], by decide⟩],
        [.literal ⟨['y'], by decide⟩]], by simp⟩⟩]
    rules_ne_nil := by simp }

theorem leftCorners_gappedWords :
    gappedWords.analyze none = .ok (gappedWords.analysis 0) ∧
      gappedWords.contextFree.BeginsWith [.nonterminal 0] 2 ∧
      (RuleGraph.leftCorners gappedWords.rules gappedWords.find?).reaches 0 2 = false ∧
      ∃ r alternative, gappedWords.rules[2]? = some r ∧ r.alternatives[0]? = some alternative ∧
        gappedWords.contextFree.BeginsWith (gappedWords.symbols alternative) 2 ∧
        ((gappedWords.analysis 0).recursion 2)[0]? = some .internal := by
  have h : gappedWords.analyze none = .ok (gappedWords.analysis 0) := by cbv
  have hphrase : gappedWords.contextFree.Produces [.nonterminal 0] [.nonterminal 1, .nonterminal 2] :=
    ⟨⟨0, [.nonterminal 1, .nonterminal 2]⟩, by decide +kernel, .input_output⟩
  have hgap : gappedWords.contextFree.Produces [.nonterminal 1] [] :=
    ⟨⟨1, []⟩, by decide +kernel, .input_output⟩
  refine ⟨h, ⟨[], ?_⟩, by decide +kernel, _, _, rfl, rfl, ?_, by decide +kernel⟩
  · exact hphrase.single.trans (hgap.append_right [.nonterminal 2]).single
  · exact beginsWith_symbols_iff.mpr ⟨1, _, 2, rfl, hgap.single, by decide +kernel, .refl⟩

end Grammar

end TypedGrammar
