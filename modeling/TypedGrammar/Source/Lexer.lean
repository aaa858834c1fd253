import TypedGrammar.Dialect
import TypedGrammar.Source.Token
import TypedGrammar.Unicode.WhiteSpace

/-!
# The lexer

A `Lexer` stands at a place of the source and yields one token at a time: it skips white space and
comments, ends a rule where a line does, and otherwise scans the token that begins there. It stops
for good after the end of the input or the first error.
-/

namespace TypedGrammar

open Unicode

/-- A place in the source and the text from there on. -/
structure Cursor where
  rest : List Char
  position : Position
  deriving DecidableEq

/-- The place `n` characters further on. -/
def Cursor.skip (cursor : Cursor) (n : Nat) : Cursor :=
  ⟨cursor.rest.drop n, cursor.position.advance (cursor.rest.take n)⟩

@[simp] theorem Cursor.rest_skip (cursor : Cursor) (n : Nat) :
    (cursor.skip n).rest = cursor.rest.drop n := rfl

/-- Whether a bare name can hold the character. -/
def isNameChar (c : Char) : Bool :=
  isAlphanumeric c || c == '_' || c == '-'

/-- Whether a bare name can begin with the character. -/
def isNameStart (c : Char) : Bool :=
  isAlphanumeric c || c == '_'

/-- What stands between tokens. -/
inductive Trivia where
  | space
  | comment
  | lineBreak
  deriving DecidableEq, Repr

namespace Dialect

/-- Whether the character is white space that ends no rule. -/
def isSpace (d : Dialect) (c : Char) : Bool :=
  isWhiteSpace c && !(d.lineOriented && isLineBreak c)

/-- Number of characters of the comment that the text begins with: up to the end of its line. An
empty mark is read as no mark here. Taken literally it begins a comment anywhere, also one of no
characters, so that skipping never ends; `skipRounds` is the skipping that takes it so. -/
def commentLength (d : Dialect) (text : List Char) : Nat :=
  match d.comment with
  | some mark =>
    if mark ≠ [] ∧ mark.isPrefixOf text then
      mark.length + ((text.drop mark.length).takeWhile (!isLineBreak ·)).length
    else
      0
  | none => 0

/-- Number of characters of the line breaks that the text begins with, where they can end rules. -/
def lineBreakLength (d : Dialect) (text : List Char) : Nat :=
  if d.lineOriented then (text.takeWhile isLineBreak).length else 0

/-- The trivia that the text begins with, and its number of characters. -/
def trivia? (d : Dialect) (text : List Char) : Option (Trivia × Nat) :=
  if 0 < (text.takeWhile d.isSpace).length then
    some (.space, (text.takeWhile d.isSpace).length)
  else if 0 < d.commentLength text then
    some (.comment, d.commentLength text)
  else if 0 < d.lineBreakLength text then
    some (.lineBreak, d.lineBreakLength text)
  else
    none

theorem commentLength_le (d : Dialect) (text : List Char) :
    d.commentLength text ≤ text.length := by
  unfold commentLength
  split
  · split
    · rename_i mark _ h
      have hle := (List.isPrefixOf_iff_prefix.mp h.2).length_le
      have := (List.takeWhile_prefix (!isLineBreak ·) (l := text.drop mark.length)).length_le
      rw [List.length_drop] at this
      omega
    · exact Nat.zero_le _
  · exact Nat.zero_le _

theorem trivia?_bounds {d : Dialect} {text : List Char} {t : Trivia} {n : Nat}
    (h : d.trivia? text = some (t, n)) : 0 < n ∧ n ≤ text.length := by
  unfold trivia? at h
  split at h
  · cases h
    exact ⟨by assumption, (List.takeWhile_prefix _).length_le⟩
  · split at h
    · cases h
      exact ⟨by assumption, d.commentLength_le text⟩
    · split at h
      · cases h
        refine ⟨by assumption, ?_⟩
        unfold lineBreakLength
        split
        · exact (List.takeWhile_prefix _).length_le
        · exact Nat.zero_le _
      · cases h

/-- Skips trivia. Returns where the first line break skipped is, which is `crossed` if one was
skipped before. -/
def skipTrivia (d : Dialect) (crossed : Option Position) (cursor : Cursor) :
    Option Position × Cursor :=
  match _h : d.trivia? cursor.rest with
  | none => (crossed, cursor)
  | some (t, n) =>
    d.skipTrivia (if t = .lineBreak then crossed.or (some cursor.position) else crossed)
      (cursor.skip n)
termination_by cursor.rest.length
decreasing_by
  have := trivia?_bounds _h
  rw [Cursor.rest_skip, List.length_drop]
  omega

/-- The delimiters in the order they are tried. A marker for the empty part that reads like a name
is told apart from names later. -/
def keywords (d : Dialect) : List (Lexeme × List Char) :=
  (match d.terminator with
    | .symbol text => [(.ruleTerminator, text)]
    | .lineBreak => []) ++
  [(.ruleAssign, d.assign), (.alternativeSeparator, d.alternative)] ++
  (match d.concatenation with
    | some text => [(.sequenceSeparator, text)]
    | none => []) ++
  (if d.epsilon.all isNameChar then [] else [(.epsilonMarker, d.epsilon)])

/-- The first delimiter that the text begins with, and its number of characters. -/
def keyword? (d : Dialect) (text : List Char) : Option (Lexeme × Nat) :=
  (d.keywords.find? fun (_, word) => word.isPrefixOf text).map fun (lexeme, word) =>
    (lexeme, word.length)

/-- Reads the body of a literal up to its closing quote, `n` characters after the literal's start;
`escaped` says that the escape stands right before. Yields the text and the number of characters of
the literal, or an error and how far from the literal's start it is. -/
def scanBody (quote : Char) (escape : Option Char) (escaped : Bool) (n : Nat) :
    List Char → Except (LexErrorKind × Nat) (List Char × Nat)
  | [] => .error (.unterminatedLiteral, 0)
  | c :: text =>
    if isLineBreak c then .error (.embeddedLineBreak, n)
    else if !escaped && escape = some c then scanBody quote escape true (n + 1) text
    else if !escaped && c = quote then .ok ([], n + 1)
    else (scanBody quote escape false (n + 1) text).map fun (body, length) => (c :: body, length)

/-- Scans the literal that `quote` opens before the text. -/
def scanLiteral (d : Dialect) (quote : Char) (text : List Char) :
    Except (LexErrorKind × Nat) (Lexeme × Nat) := do
  let (body, length) ← scanBody quote d.escape false 1 text
  match Line.ofText? body with
  | .ok line => .ok (.quotedLiteral line, length)
  | .error _ => .error (.embeddedLineBreak, length - 1)

/-- The error for a written name that is none, blamed on `c` unless it holds a line break. -/
def nameError (c : Char) : StructureError → LexErrorKind
  | .line _ => .embeddedLineBreak
  | _ => .illegalCharacter c

/-- Scans the name in brackets that an opening bracket before the text begins. -/
def scanBracketed (close : Char) (text : List Char) :
    Except (LexErrorKind × Nat) (Lexeme × Nat) :=
  let inner := text.takeWhile fun c => !isLineBreak c && c != close
  match text.drop inner.length with
  | [] => .error (.unterminatedName, 0)
  | c :: _ =>
    if isLineBreak c then .error (.embeddedLineBreak, inner.length + 1)
    else
      match Name.ofText? inner with
      | .ok name => .ok (.identifier name, inner.length + 2)
      | .error error => .error (nameError close error, inner.length + 1)

/-- Scans the bare name that begins with `first`, or the marker of the empty part if it is that. -/
def scanBare (d : Dialect) (first : Char) (text : List Char) :
    Except (LexErrorKind × Nat) (Lexeme × Nat) :=
  if isNameStart first then
    let word := first :: text.takeWhile isNameChar
    if word = d.epsilon then .ok (.epsilonMarker, word.length)
    else
      match Name.ofText? word with
      | .ok name => .ok (.identifier name, word.length)
      | .error error => .error (nameError first error, 0)
  else
    .error (.illegalCharacter first, 0)

/-- Scans the token that the text begins with. Yields it with its number of characters, or an error
and how many characters into the text it is. -/
def scan (d : Dialect) : List Char → Except (LexErrorKind × Nat) (Lexeme × Nat)
  | [] => .ok (.endOfInput, 0)
  | first :: text =>
    match d.keyword? (first :: text) with
    | some token => .ok token
    | none =>
      if first ∈ d.quotes then d.scanLiteral first text
      else
        match d.brackets with
        | some (opening, closing) =>
          if first = opening then scanBracketed closing text else d.scanBare first text
        | none => d.scanBare first text

end Dialect

/-- A reader of tokens at some place of its source. -/
structure Lexer where
  dialect : Dialect
  source : List Char
  cursor : Cursor
  /-- Whether a token came after the last end of a rule. -/
  ruleOpen : Bool
  /-- Whether the end of the input or an error has been reached. -/
  stopped : Bool

namespace Lexer

def ofSource (d : Dialect) (source : List Char) : Lexer :=
  ⟨d, source, ⟨source, .start⟩, false, false⟩

/-- The lexer back at the beginning of its source. -/
def restart (l : Lexer) : Lexer :=
  ofSource l.dialect l.source

/-- The end of what has been read. -/
def location (l : Lexer) : Position :=
  l.cursor.position

/-- Where an open rule ends, if it ends before the next token at `cursor`: at the first line break
crossed, unless an alternative follows, or at the end of line oriented source. -/
def ruleEnd? (l : Lexer) (crossed : Option Position) (cursor : Cursor) : Option Position :=
  if l.ruleOpen then
    if crossed.isSome && !l.dialect.alternative.isPrefixOf cursor.rest then crossed
    else if cursor.rest.isEmpty && l.dialect.lineOriented then some cursor.position
    else none
  else
    none

/-- Reads at a cursor before which trivia was skipped, with the first line break in it at `crossed`. -/
def readFrom (l : Lexer) (crossed : Option Position) (cursor : Cursor) :
    Except LexError Token × Lexer :=
  match l.ruleEnd? crossed cursor with
  | some position =>
    (.ok ⟨.ruleTerminator, position⟩, { l with cursor := cursor, ruleOpen := false })
  | none =>
    match l.dialect.scan cursor.rest with
    | .error (kind, n) =>
      (.error ⟨kind, (cursor.skip n).position⟩, { l with cursor := cursor, stopped := true })
    | .ok (.endOfInput, _) =>
      (.ok ⟨.endOfInput, cursor.position⟩, { l with cursor := cursor, stopped := true })
    | .ok (lexeme, n) =>
      (.ok ⟨lexeme, cursor.position⟩,
        { l with cursor := cursor.skip n, ruleOpen := lexeme ≠ .ruleTerminator })

/-- Reads one token or error. -/
def read (l : Lexer) : Except LexError Token × Lexer :=
  let (crossed, cursor) := l.dialect.skipTrivia none l.cursor
  l.readFrom crossed cursor

theorem read_of_skipTrivia {l : Lexer} {crossed : Option Position} {cursor : Cursor}
    (h : l.dialect.skipTrivia none l.cursor = (crossed, cursor)) :
    l.read = l.readFrom crossed cursor := by
  rw [read, h]

/-- Reads one token or error, or nothing once the lexer has stopped. -/
def next? (l : Lexer) : Option (Except LexError Token) × Lexer :=
  if l.stopped then (none, l) else (some l.read.1, l.read.2)

end Lexer

end TypedGrammar
