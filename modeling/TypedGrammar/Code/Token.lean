/-!
# Tokens of generated code

Generated code is a flat list of tokens: words, punctuation and brackets as they are written, and
string literals by their value.
-/

namespace TypedGrammar

inductive CodeToken where
  | plain (text : List Char)
  /-- A string literal with this value. -/
  | literal (value : List Char)
  deriving DecidableEq, Repr

namespace CodeToken

/-- Tokens as they are written, one for each text. -/
def code (texts : List String) : List CodeToken :=
  texts.map fun text => .plain text.toList

def parens (tokens : List CodeToken) : List CodeToken :=
  code ["("] ++ tokens ++ code [")"]

def braces (tokens : List CodeToken) : List CodeToken :=
  code ["\x7b"] ++ tokens ++ code ["\x7d"]

def angles (tokens : List CodeToken) : List CodeToken :=
  code ["<"] ++ tokens ++ code [">"]

def unit : List CodeToken :=
  parens []

/-- The tokens with a comma between any two groups. -/
def commaSeparated (groups : List (List CodeToken)) : List CodeToken :=
  (code [","]).intercalate groups

/-- A word followed by a decimal number. -/
def numbered (word : String) (n : Nat) : CodeToken :=
  .plain (word.toList ++ Nat.toDigits 10 n)

/-- A documentation comment, as the attribute it stands for. -/
def docComment (text : List Char) : List CodeToken :=
  code ["#", "[", "doc", "="] ++ [.literal text] ++ code ["]"]

def derive (traits : List String) : List CodeToken :=
  code ["#", "[", "derive"] ++ parens (commaSeparated (traits.map fun name => code [name])) ++
    code ["]"]

/-- A path from the root of all modules. -/
def path (segments : List String) : List CodeToken :=
  code (segments.flatMap fun segment => ["::", segment])

end CodeToken

end TypedGrammar
