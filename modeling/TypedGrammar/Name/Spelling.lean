import TypedGrammar.Name.Basic

/-!
# Spelling out literals

Names for things a grammar does not name itself. The words of a literal keep its letters and spell
its digits and symbols, so that `+1` is called `plus one`.
-/

namespace TypedGrammar.Name

open Unicode

/-- The words for a symbol that has some. -/
def symbolWords : Char → Option (List String)
  | '+' => some ["plus"]
  | '-' => some ["minus"]
  | '*' => some ["star"]
  | '/' => some ["slash"]
  | '\\' => some ["backslash"]
  | '%' => some ["percent"]
  | '=' => some ["equals"]
  | '<' => some ["less", "than"]
  | '>' => some ["greater", "than"]
  | '!' => some ["bang"]
  | '?' => some ["question"]
  | '.' => some ["dot"]
  | ',' => some ["comma"]
  | ':' => some ["colon"]
  | ';' => some ["semicolon"]
  | '(' => some ["left", "paren"]
  | ')' => some ["right", "paren"]
  | '[' => some ["left", "bracket"]
  | ']' => some ["right", "bracket"]
  | '\x7b' => some ["left", "brace"]
  | '\x7d' => some ["right", "brace"]
  | '"' => some ["quote"]
  | '\'' => some ["apostrophe"]
  | '\x60' => some ["backtick"]
  | '&' => some ["ampersand"]
  | '|' => some ["pipe"]
  | '^' => some ["caret"]
  | '~' => some ["tilde"]
  | '#' => some ["hash"]
  | '$' => some ["dollar"]
  | '@' => some ["at"]
  | ' ' => some ["space"]
  | '\t' => some ["tab"]
  | '_' => some ["underscore"]
  | '0' => some ["zero"]
  | '1' => some ["one"]
  | '2' => some ["two"]
  | '3' => some ["three"]
  | '4' => some ["four"]
  | '5' => some ["five"]
  | '6' => some ["six"]
  | '7' => some ["seven"]
  | '8' => some ["eight"]
  | '9' => some ["nine"]
  | _ => none

/-- The code point in hexadecimal digits, at least four, after the letter `u`. -/
def codePointWord (c : Char) : List Char :=
  'u' :: (Nat.toDigits 16 c.toNat).leftpad 4 '0'

/-- The words for one character that is not alphabetic. -/
def characterWords (c : Char) : List (List Char) :=
  match symbolWords c with
  | some words => words.map String.toList
  | none => [codePointWord c]

/-- The words for a piece of a literal: a run of alphabetic characters is one word, any other
character is spelled out. -/
def pieceWords (piece : List Char) : List (List Char) :=
  if piece.all isAlphabetic then [piece] else piece.flatMap characterWords

/-- The words that spell out a literal; the empty literal is called `empty`. -/
def literalWords (text : List Char) : List (List Char) :=
  if text = [] then ["empty".toList]
  else (text.splitBy fun a b => isAlphabetic a && isAlphabetic b).flatMap pieceWords

/-- The name made of those words that are lines, or `fallback` if there are none. -/
def ofWords (words : List (List Char)) (fallback : Name) : Name :=
  ofFragmentsD (words.filterMap fun word => (Line.ofText? word).toOption) fallback

def ofLiteral (text : List Char) (fallback : Name) : Name :=
  ofWords (literalWords text) fallback

/-- The names one after the other as one name, or `fallback` if there are none. -/
def join (names : List Name) (fallback : Name) : Name :=
  ofFragmentsD (names.flatMap fragments) fallback

end TypedGrammar.Name
