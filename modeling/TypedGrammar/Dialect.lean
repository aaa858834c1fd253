/-!
# Dialects of grammar source

A `Dialect` fixes every delimiter of grammar source. The lexer and the printer both read them from
here. Two dialects have names: the line oriented `bnf` and the separated `ebnf`.
-/

namespace TypedGrammar

inductive Terminator where
  /-- A line break ends the rule, unless the next line continues it with another alternative. -/
  | lineBreak
  /-- A symbol ends the rule, and line breaks are white space. -/
  | symbol (text : List Char)
  deriving DecidableEq, Repr

/-- The delimiters of grammar source. -/
structure Dialect where
  /-- Stands between a rule's name and its definition. -/
  assign : List Char
  /-- Stands between alternatives. -/
  alternative : List Char
  /-- Stands between the parts of an alternative, if anything does. -/
  concatenation : Option (List Char)
  terminator : Terminator
  /-- Marks the part that derives nothing. -/
  epsilon : List Char
  /-- The characters that can open a literal, which the same character closes. -/
  quotes : List Char
  /-- Makes the next character of a literal stand for itself. -/
  escape : Option Char
  /-- The brackets that rule names are printed in. Bare names are read in any case. -/
  brackets : Option (Char × Char)
  /-- Begins a comment that ends with the line. -/
  comment : Option (List Char)
  deriving DecidableEq, Repr

namespace Dialect

/-- Rules on lines of their own: `<number> ::= <digit> | <number> <digit>`. -/
def bnf : Dialect where
  assign := "::=".toList
  alternative := "|".toList
  concatenation := none
  terminator := .lineBreak
  epsilon := "ε".toList
  quotes := ['"', '\'']
  escape := none
  brackets := some ('<', '>')
  comment := some "#".toList

/-- Parts and rules with explicit ends: `number = digit | number , digit ;`. -/
def ebnf : Dialect where
  assign := "=".toList
  alternative := "|".toList
  concatenation := some ",".toList
  terminator := .symbol ";".toList
  epsilon := "ε".toList
  quotes := ['"', '\'']
  escape := none
  brackets := none
  comment := some "#".toList

def named? : String → Option Dialect
  | "bnf" => some bnf
  | "ebnf" => some ebnf
  | _ => none

/-- Whether line breaks end rules. -/
def lineOriented (d : Dialect) : Bool :=
  d.terminator = .lineBreak

end Dialect

end TypedGrammar
