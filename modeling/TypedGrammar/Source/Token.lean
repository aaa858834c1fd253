import TypedGrammar.Name.Basic
import TypedGrammar.Source.Position
import TypedGrammar.Text.Quoted

/-!
# Tokens of grammar source

What the lexer yields: tokens with their positions, or the error that ends them.
-/

namespace TypedGrammar

inductive TokenKind where
  | identifier
  | quotedLiteral
  | ruleAssign
  | alternativeSeparator
  | sequenceSeparator
  | epsilonMarker
  | ruleTerminator
  | endOfInput
  deriving DecidableEq, Repr

/-- The kind as messages show it. -/
def TokenKind.text : TokenKind → String
  | .identifier => "identifier"
  | .quotedLiteral => "quoted literal"
  | .ruleAssign => "rule assignment"
  | .alternativeSeparator => "alternative separator"
  | .sequenceSeparator => "sequence separator"
  | .epsilonMarker => "epsilon"
  | .ruleTerminator => "end of rule"
  | .endOfInput => "end of input"

/-- What a token holds. -/
inductive Lexeme where
  | identifier (name : Name)
  | quotedLiteral (text : Line)
  | ruleAssign
  | alternativeSeparator
  | sequenceSeparator
  | epsilonMarker
  | ruleTerminator
  | endOfInput
  deriving DecidableEq

def Lexeme.kind : Lexeme → TokenKind
  | .identifier _ => .identifier
  | .quotedLiteral _ => .quotedLiteral
  | .ruleAssign => .ruleAssign
  | .alternativeSeparator => .alternativeSeparator
  | .sequenceSeparator => .sequenceSeparator
  | .epsilonMarker => .epsilonMarker
  | .ruleTerminator => .ruleTerminator
  | .endOfInput => .endOfInput

/-- A lexeme and where it begins. -/
structure Token where
  lexeme : Lexeme
  position : Position
  deriving DecidableEq

def Token.kind (token : Token) : TokenKind :=
  token.lexeme.kind

/-- What can be wrong with the characters of grammar source. -/
inductive LexErrorKind where
  | unterminatedLiteral
  | unterminatedName
  | illegalCharacter (char : Char)
  | embeddedLineBreak
  deriving DecidableEq, Repr

/-- The wording of the error without its place. -/
def LexErrorKind.text : LexErrorKind → String
  | .unterminatedLiteral => "unterminated literal"
  | .unterminatedName => "unterminated rule name"
  | .illegalCharacter char => String.join ["illegal character ", Text.quoted char]
  | .embeddedLineBreak => "line break inside a literal or name"

/-- An error in the characters of grammar source and where it is. -/
structure LexError where
  kind : LexErrorKind
  position : Position
  deriving DecidableEq, Repr

def LexError.message (error : LexError) : String :=
  String.join [error.kind.text, " at ", error.position.text]

end TypedGrammar
