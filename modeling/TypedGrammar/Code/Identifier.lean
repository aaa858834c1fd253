import TypedGrammar.Text.Counter

/-!
# Identifiers of the target language

An identifier is made of ASCII letters, digits and underscores, does not begin with a digit, and is
neither a keyword nor a lone underscore. `identifier` makes one of any text, and a `Scope` keeps
those of one namespace apart.
-/

namespace TypedGrammar.Code

/-- Whether an identifier can hold the character. -/
def isIdentifierChar (c : Char) : Bool :=
  c.isAlphanum || c == '_'

/-- The words that cannot be identifiers. -/
def keywords : List String :=
  ["abstract", "as", "become", "box", "break", "const", "continue", "crate", "do", "else", "enum",
    "extern", "false", "final", "fn", "for", "if", "impl", "in", "let", "loop", "macro", "match",
    "mod", "move", "mut", "override", "priv", "pub", "ref", "return", "Self", "self", "static",
    "struct", "super", "trait", "true", "type", "typeof", "unsafe", "unsized", "use", "virtual",
    "where", "while", "yield"]

/-- Whether the text is reserved: a keyword or a lone underscore. -/
def isReserved (text : List Char) : Bool :=
  text = ['_'] || keywords.any (·.toList = text)

/-- The text with an underscore in front, if it is empty or begins with a digit. -/
def withSafeStart (text : List Char) : List Char :=
  match text with
  | [] => ['_']
  | c :: _ => if c.isDigit then '_' :: text else text

/-- The text with an underscore at its end, if it is reserved. -/
def withSafeEnd (text : List Char) : List Char :=
  if isReserved text then text ++ ['_'] else text

/-- An identifier for the text: every other character becomes an underscore. -/
def identifier (text : List Char) : List Char :=
  withSafeEnd (withSafeStart (text.map fun c => if isIdentifierChar c then c else '_'))

structure Scope where
  taken : List (List Char)

namespace Scope

/-- The identifier with a counter behind an underscore. -/
def numbered (base : List Char) (n : Nat) : List Char :=
  base ++ ['_'] ++ Nat.toDigits 10 n

/-- The identifier to use for the text: its own if that is free, and else with the least counter
from two upward that makes it free. The counter has no limit: a signed one of 32 bits agrees with it
as long as fewer than `2 ^ 31 - 2` identifiers are taken. -/
def fresh (scope : Scope) (text : List Char) : List Char :=
  let base := identifier text
  if scope.taken.contains base then
    numbered base (Text.leastFree (numbered base) 2 scope.taken)
  else
    base

def claimAll (scope : Scope) : List (List Char) → List (List Char)
  | [] => []
  | text :: texts =>
    let name := scope.fresh text
    name :: claimAll ⟨name :: scope.taken⟩ texts

end Scope

end TypedGrammar.Code
