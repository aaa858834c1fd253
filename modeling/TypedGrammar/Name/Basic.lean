import TypedGrammar.Text.Casing
import TypedGrammar.StructureError
import TypedGrammar.Unicode.Numeric

/-!
# Names

A name is a non-empty list of fragments, so that it can be written in any casing. `Name.ofText?`
splits a written name into its words: `nonZeroDigit`, `non_Zero-Digit` and `non Zero Digit` are
one name.
-/

namespace TypedGrammar

/-- A name, kept as its fragments. -/
structure Name where
  fragments : List Line
  fragments_ne_nil : fragments ≠ []
  deriving DecidableEq

namespace Name

open Unicode

theorem ext {a b : Name} (h : a.fragments = b.fragments) : a = b := by
  cases a; cases b; cases h; rfl

/-- The name with these fragments, if there are any. -/
def ofFragments? (fragments : List Line) : Except StructureError Name :=
  if h : fragments = [] then .error .emptyName else .ok ⟨fragments, h⟩

/-- The name with these fragments, or `fallback` if there are none. -/
def ofFragmentsD (fragments : List Line) (fallback : Name) : Name :=
  if h : fragments = [] then fallback else ⟨fragments, h⟩

/-- Whether the character only separates the words of a written name. -/
def isSeparator (c : Char) : Bool :=
  c == ' ' || c == '\t' || c == '_' || c == '-'

/-- Whether a new word begins at `c` when it directly follows `previous`: at an upper case
character after a lower case or numeric one. -/
def startsWord (previous c : Char) : Bool :=
  isUppercase c && (isLowercase previous || isNumeric previous)

/-- The words of a written name: its pieces between separators, each cut where a word begins. -/
def words (text : List Char) : List (List Char) :=
  (text.splitOnP isSeparator).flatMap (List.splitBy fun previous c => !startsWord previous c)

/-- A word as a fragment. -/
def fragment? (word : List Char) : Except StructureError Line :=
  (Line.ofText? word).mapError .line

/-- The name that the text writes. -/
def ofText? (text : List Char) : Except StructureError Name := do
  ofFragments? (← (words text).mapM fragment?)

/-- The characters of the fragments, with `separator` between any two. -/
def joined (separator : List Char) (name : Name) : List Char :=
  separator.intercalate (name.fragments.map Line.chars)

/-- The name in words, as messages show it. -/
def text (name : Name) : String :=
  String.ofList (name.joined [' '])

/-- The name with every word capitalized and nothing between words: `NonZeroDigit`. -/
def pascalCase (name : Name) : List Char :=
  name.fragments.flatMap fun fragment => Text.capitalize fragment.chars

/-- The name in lower case with underscores between words: `non_zero_digit`. -/
def snakeCase (name : Name) : List Char :=
  ['_'].intercalate (name.fragments.map fun fragment => Text.lower fragment.chars)

/-- The order of names: fragment by fragment, and within one by code points. -/
def order (a b : Name) : Ordering :=
  List.compareLex (fun s t => List.compareLex (compareOn Char.toNat) s.chars t.chars)
    a.fragments b.fragments

def sort (names : List Name) : List Name :=
  names.mergeSort fun a b => (order a b).isLE

end Name

end TypedGrammar
