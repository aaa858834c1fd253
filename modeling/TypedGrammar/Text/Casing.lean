import TypedGrammar.Unicode.CaseMapping
import TypedGrammar.Unicode.LetterCase

/-!
# Lower case of a text

Characters are lowered one by one, except for the capital sigma: at the end of a word it becomes
the final small sigma. It ends a word when a cased character comes before it and none after it,
looking past the characters that casing ignores.
-/

namespace TypedGrammar.Text

open Unicode

/-- Whether the first character that casing does not ignore is cased. -/
def leadsToCased (text : List Char) : Bool :=
  (text.dropWhile isCaseIgnorable).head?.any isCased

/-- The lower case of `text`, where `before` is the text that precedes it in reverse. -/
def lowerAfter : List Char → List Char → List Char
  | _, [] => []
  | before, c :: text =>
    let lowered :=
      if c = 'Σ' then
        if leadsToCased before && !leadsToCased text then ['ς'] else ['σ']
      else
        toLower c
    lowered ++ lowerAfter (c :: before) text

def lower (text : List Char) : List Char :=
  lowerAfter [] text

/-- The text with its first character in upper case and the rest unchanged. -/
def capitalize : List Char → List Char
  | [] => []
  | c :: text => toUpper c ++ text

end TypedGrammar.Text
