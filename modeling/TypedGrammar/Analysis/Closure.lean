import TypedGrammar.Analysis.Error

/-!
# Closed grammars

A grammar is closed when every reference names a rule, no two rules share a name, and the start
rule exists. One pass over the rules enters them into an index by name; `closureErrors` lists what
the pass and the index find against the grammar.
-/

namespace TypedGrammar

abbrev NameIndex := List (Name × RuleId)

/-- The index of the rules entered so far, and the errors for those that found their name taken. -/
structure Indexing where
  index : NameIndex
  duplicates : List SemanticError

/-- Enters the rule under its name, unless an earlier rule has that name. -/
def Indexing.enter (s : Indexing) (r : Rule × RuleId) : Indexing :=
  match s.index.lookup r.1.name with
  | none => { s with index := (r.1.name, r.2) :: s.index }
  | some first => { s with duplicates := s.duplicates ++ [.duplicateRule r.1.name first r.2] }

theorem Indexing.lookup_enter (s : Indexing) (r : Rule × RuleId) (name : Name) :
    (s.enter r).index.lookup name =
      (s.index.lookup name).or (if r.1.name = name then some r.2 else none) := by
  unfold enter
  split
  · rename_i hlookup
    rw [List.lookup_cons]
    by_cases h : r.1.name = name
    · subst h
      simp [hlookup]
    · have hne : (name == r.1.name) = false := by simpa using Ne.symm h
      simp [hne, h]
  · rename_i first hlookup
    by_cases h : r.1.name = name
    · subst h
      simp [hlookup]
    · simp [h]

theorem Indexing.lookup_foldl_enter (rules : List Rule) (n : Nat) (s : Indexing) (name : Name) :
    ((rules.zipIdx n).foldl enter s).index.lookup name =
      (s.index.lookup name).or ((rules.findIdx? (·.name = name)).map (· + n)) := by
  induction rules generalizing n s with
  | nil => simp
  | cons r rules ih =>
    rw [List.zipIdx_cons, List.foldl_cons, ih, lookup_enter, List.findIdx?_cons, Option.or_assoc]
    by_cases h : r.name = name
    · simp [h]
    · simp [h, Function.comp_def, Nat.add_right_comm, Nat.add_assoc]

namespace Grammar

def indexing (g : Grammar) : Indexing :=
  g.rules.zipIdx.foldl .enter ⟨[], []⟩

/-- The rules by name, of several rules of one name the first. -/
def index (g : Grammar) : NameIndex :=
  g.indexing.index

@[simp] theorem lookup_index (g : Grammar) (name : Name) : g.index.lookup name = g.find? name := by
  rw [index, indexing, Indexing.lookup_foldl_enter]
  simp [find?]

/-- The error for a part that refers to a name no rule has. -/
def undefinedReference? (index : NameIndex) (owner : Name) (alternative : Nat) (part : Part × Nat) :
    Option SemanticError :=
  match part with
  | (.reference name, i) =>
    if (index.lookup name).isNone then some (.undefinedReference owner name alternative i) else none
  | _ => none

def undefinedReferencesOf (index : NameIndex) (r : Rule) : List SemanticError :=
  r.alternatives.zipIdx.flatMap fun (a, i) =>
    a.zipIdx.filterMap (undefinedReference? index r.name i)

/-- The references that name no rule, in source order. -/
def undefinedReferences (g : Grammar) : List SemanticError :=
  g.rules.flatMap (undefinedReferencesOf g.index)

/-- The rules whose names are taken, in source order. -/
def duplicates (g : Grammar) : List SemanticError :=
  g.indexing.duplicates

/-- The error for a start rule that does not exist. -/
def startErrors (g : Grammar) : Option Name → List SemanticError
  | some name => if (g.index.lookup name).isNone then [.unknownStart name] else []
  | none => []

/-- The rule to start from: the named one, or the first. -/
def startRule (g : Grammar) (start : Option Name) : RuleId :=
  (start.bind fun name => g.index.lookup name).getD 0

/-- Everything that keeps the grammar from being closed. -/
def closureErrors (g : Grammar) (start : Option Name) : List SemanticError :=
  g.undefinedReferences ++ g.duplicates ++ g.startErrors start

end Grammar

end TypedGrammar
