import Mathlib.Computability.ContextFreeGrammar
import Mathlib.Tactic.Lemma

/-!
# Leftmost symbols

A context-free grammar rewrites a sequence to one that begins with a given nonterminal in ever so many ways.
All that counts is which nonterminals an output exposes: those behind nothing but what can be rewritten to
nothing. `beginsWith_iff` says that the nonterminals a sequence can come to begin with are those that are
exposed, step by step, from one that stands behind nothing in the sequence itself.
-/

namespace ContextFreeGrammar

open Relation

variable {T : Type*} {G : ContextFreeGrammar T} {s s' u v w : List (Symbol T G.NT)} {a b : G.NT}
  {x : Symbol T G.NT}

/-- Rewriting leads from the sequence to one that begins with the nonterminal. -/
def BeginsWith (G : ContextFreeGrammar T) (s : List (Symbol T G.NT)) (b : G.NT) : Prop :=
  ∃ rest, G.Derives s (.nonterminal b :: rest)

/-- In an output of `a` the nonterminal `b` stands behind nothing but what can be rewritten to nothing. -/
def Exposes (G : ContextFreeGrammar T) (a b : G.NT) : Prop :=
  ∃ front back, ⟨a, front ++ .nonterminal b :: back⟩ ∈ G.rules ∧ G.Derives front []

/-- Behind nothing but what can be rewritten to nothing stands a nonterminal that exposes `b` step by
step. -/
def Opens (G : ContextFreeGrammar T) (s : List (Symbol T G.NT)) (b : G.NT) : Prop :=
  ∃ front a back, s = front ++ .nonterminal a :: back ∧ G.Derives front [] ∧
    ReflTransGen G.Exposes a b

/-- A step in two sequences put together is a step in one of them. -/
lemma Produces.append_cases (h : G.Produces (u ++ v) w) :
    (∃ u', G.Produces u u' ∧ w = u' ++ v) ∨ ∃ v', G.Produces v v' ∧ w = u ++ v' := by
  obtain ⟨r, hr, h⟩ := h
  induction u generalizing w with
  | nil => exact .inr ⟨w, ⟨r, hr, h⟩, rfl⟩
  | cons x u ih =>
    cases h with
    | head => exact .inl ⟨r.output ++ u, ⟨r, hr, .head u⟩, (List.append_assoc _ _ _).symm⟩
    | cons _ h =>
      rcases ih h with ⟨u', hu, rfl⟩ | ⟨v', hv, rfl⟩
      · exact .inl ⟨x :: u', hu.append_left [x], rfl⟩
      · exact .inr ⟨v', hv, rfl⟩

lemma derives_append_nil_iff : G.Derives (u ++ v) [] ↔ G.Derives u [] ∧ G.Derives v [] := by
  constructor
  · intro h
    generalize hs : u ++ v = s at h
    induction h using ReflTransGen.head_induction_on generalizing u v with
    | refl =>
      obtain ⟨rfl, rfl⟩ := List.append_eq_nil_iff.mp hs
      exact ⟨.refl [], .refl []⟩
    | head hstep _ ih =>
      subst hs
      rcases hstep.append_cases with ⟨u', hu, rfl⟩ | ⟨v', hv, rfl⟩
      · exact (ih rfl).imp_left hu.trans_derives
      · exact (ih rfl).imp_right hv.trans_derives
  · rintro ⟨hu, hv⟩
    exact (hu.append_right v).trans hv

lemma derives_cons_nil_iff : G.Derives (x :: s) [] ↔ G.Derives [x] [] ∧ G.Derives s [] := by
  rw [← List.singleton_append, derives_append_nil_iff]

lemma opens_cons_iff : G.Opens (x :: s) b ↔
    (∃ a, x = .nonterminal a ∧ ReflTransGen G.Exposes a b) ∨ (G.Derives [x] [] ∧ G.Opens s b) := by
  constructor
  · rintro ⟨front, a, back, hs, hfront, hpath⟩
    cases front with
    | nil => exact .inl ⟨a, (List.cons.inj hs).1, hpath⟩
    | cons y front =>
      obtain ⟨rfl, rfl⟩ := List.cons.inj hs
      obtain ⟨hx, hfront⟩ := derives_cons_nil_iff.mp hfront
      exact .inr ⟨hx, front, a, back, rfl, hfront, hpath⟩
  · rintro (⟨a, rfl, hpath⟩ | ⟨hx, front, a, back, rfl, hfront, hpath⟩)
    · exact ⟨[], a, s, rfl, .refl [], hpath⟩
    · exact ⟨x :: front, a, back, rfl, derives_cons_nil_iff.mpr ⟨hx, hfront⟩, hpath⟩

lemma opens_append_iff :
    G.Opens (u ++ v) b ↔ G.Opens u b ∨ (G.Derives u [] ∧ G.Opens v b) := by
  induction u with
  | nil =>
    constructor
    · exact fun h => .inr ⟨.refl [], h⟩
    · rintro (⟨front, a, back, hs, _⟩ | ⟨_, h⟩)
      · simp at hs
      · exact h
  | cons x u ih =>
    have hnil : G.Derives (x :: u) [] ↔ G.Derives [x] [] ∧ G.Derives u [] := derives_cons_nil_iff
    rw [List.cons_append, opens_cons_iff, opens_cons_iff, ih, hnil, and_or_left, or_assoc, and_assoc]

/-- What a sequence opens with after a step it opened with before, maybe by one more exposure. -/
lemma Opens.of_produces (hstep : G.Produces s s') (h : G.Opens s' b) : G.Opens s b := by
  obtain ⟨r, hr, hstep⟩ := hstep
  induction hstep with
  | head s =>
    rcases opens_append_iff.mp h with ⟨front, a, back, hout, hfront, hpath⟩ | ⟨hout, h⟩
    · have hexposes : G.Exposes r.input a := ⟨front, back, hout ▸ hr, hfront⟩
      exact opens_cons_iff.mpr (.inl ⟨r.input, rfl, hpath.head hexposes⟩)
    · have hinput : G.Produces [.nonterminal r.input] r.output := ⟨r, hr, .input_output⟩
      exact opens_cons_iff.mpr (.inr ⟨hinput.trans_derives hout, h⟩)
  | cons x _ ih =>
    exact opens_cons_iff.mpr ((opens_cons_iff.mp h).imp_right (And.imp_right ih))

lemma beginsWith_of_path (h : ReflTransGen G.Exposes a b) : G.BeginsWith [.nonterminal a] b := by
  induction h using ReflTransGen.head_induction_on with
  | refl => exact ⟨[], .refl _⟩
  | head hstep _ ih =>
    obtain ⟨front, back, hrule, hfront⟩ := hstep
    obtain ⟨rest, hrest⟩ := ih
    have hstep := Produces.single ⟨_, hrule, .input_output⟩
    exact ⟨rest ++ back, (hstep.trans (hfront.append_right _)).trans (hrest.append_right back)⟩

/-- A sequence can be rewritten to one that begins with a nonterminal when it opens with it. -/
theorem beginsWith_iff : G.BeginsWith s b ↔ G.Opens s b := by
  constructor
  · rintro ⟨rest, h⟩
    induction h using ReflTransGen.head_induction_on with
    | refl => exact ⟨[], b, rest, rfl, .refl [], .refl⟩
    | head hstep _ ih => exact ih.of_produces hstep
  · rintro ⟨front, a, back, rfl, hfront, hpath⟩
    obtain ⟨rest, hrest⟩ := beginsWith_of_path hpath
    exact ⟨rest ++ back, (hfront.append_right _).trans (hrest.append_right back)⟩

/-- Where each nonterminal of a kind has a symbol of the kind in all of its outputs, what holds a symbol of
the kind is not rewritten to nothing. -/
lemma not_derives_nil {solid : Symbol T G.NT → Prop}
    (hrules : ∀ r ∈ G.rules, solid (.nonterminal r.input) → ∃ x ∈ r.output, solid x)
    (hs : ∃ x ∈ s, solid x) : ¬ G.Derives s [] := by
  intro h
  induction h using ReflTransGen.head_induction_on with
  | refl => simp at hs
  | head hstep _ ih =>
    obtain ⟨r, hr, hstep⟩ := hstep
    obtain ⟨p, q, rfl, rfl⟩ := hstep.exists_parts
    obtain ⟨x, hx, hsolid⟩ := hs
    rcases List.mem_append.mp hx with hx | hx
    · rcases List.mem_append.mp hx with hx | hx
      · exact ih ⟨x, by simp [hx], hsolid⟩
      · obtain ⟨y, hy, hsolid⟩ := hrules r hr (List.mem_singleton.mp hx ▸ hsolid)
        exact ih ⟨y, by simp [hy], hsolid⟩
    · exact ih ⟨x, by simp [hx], hsolid⟩

end ContextFreeGrammar
