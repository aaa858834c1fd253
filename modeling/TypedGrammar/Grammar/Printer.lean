import TypedGrammar.Dialect
import TypedGrammar.Grammar.Basic

/-!
# Printing grammars

How names, literals, alternatives, rules and grammars are written in a dialect.
-/

namespace TypedGrammar

/-- The name in its brackets with spaces between words, or bare with underscores. -/
def Name.print (d : Dialect) (name : Name) : List Char :=
  match d.brackets with
  | some (opening, closing) => [opening] ++ name.joined [' '] ++ [closing]
  | none => name.joined ['_']

namespace Line

/-- The quote to write the text with: the first that does not occur in it, or else the first. -/
def quoteFor (d : Dialect) (text : List Char) : Char :=
  ((d.quotes.find? (!text.contains ·)).or d.quotes.head?).getD '"'

/-- The character within a literal, behind the escape if it would otherwise not stand for
itself. -/
def escapeChar (escape : Option Char) (quote c : Char) : List Char :=
  match escape with
  | some e => if c = quote ∨ c = e then [e, c] else [c]
  | none => [c]

def printLiteral (d : Dialect) (text : Line) : List Char :=
  let quote := quoteFor d text.chars
  [quote] ++ text.chars.flatMap (escapeChar d.escape quote) ++ [quote]

end Line

def Part.print (d : Dialect) : Part → List Char
  | .literal text => text.printLiteral d
  | .reference name => name.print d
  | .epsilon => d.epsilon

/-- What is written between two parts. -/
def Dialect.partSeparator (d : Dialect) : List Char :=
  match d.concatenation with
  | some text => [' '] ++ text ++ [' ']
  | none => [' ']

def Alternative.print (d : Dialect) (a : Alternative) : List Char :=
  d.partSeparator.intercalate (a.map (Part.print d))

/-- The alternative after the delimiter in front of it, which only parts need a space from. -/
def Alternative.printAfter (d : Dialect) (delimiter : List Char) (a : Alternative) : List Char :=
  [' '] ++ delimiter ++ (if a = [] then [] else [' ']) ++ Alternative.print d a

/-- The alternatives after the rule's name: the first after the assignment, the others after the
alternative separator. -/
def Definition.print (d : Dialect) (definition : Definition) : List Char :=
  Alternative.printAfter d d.assign (definition.alternatives.head definition.alternatives_ne_nil) ++
    definition.alternatives.tail.flatMap (Alternative.printAfter d d.alternative)

/-- The symbol at the end of a rule, where there is one. -/
def Terminator.print : Terminator → List Char
  | .symbol text => [' '] ++ text
  | .lineBreak => []

/-- The rule as it is written, without a line break. -/
def Rule.print (d : Dialect) (r : Rule) : List Char :=
  r.name.print d ++ r.definition.print d ++ d.terminator.print

/-- The grammar as it is written, each rule on a line. -/
def Grammar.print (d : Dialect) (g : Grammar) : List Char :=
  g.rules.flatMap fun r => r.print d ++ ['\n']

end TypedGrammar
