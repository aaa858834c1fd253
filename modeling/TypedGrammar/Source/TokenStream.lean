import TypedGrammar.Source.Lexer

/-!
# Token streams

All tokens a lexer yields, up to the end of the input or the error that ends them. A parser pulls
its tokens from such a stream.
-/

namespace TypedGrammar

/-- What comes after the last token. -/
inductive Ending where
  /-- The input ends here. -/
  | endOfInput (position : Position)
  /-- An error; what is read after it is the end of input at `location`. -/
  | failed (error : LexError) (location : Position)
  deriving DecidableEq

/-- The tokens still to come, the end of the input not among them, and what comes after. -/
structure TokenStream where
  tokens : List Token
  ending : Ending
  deriving DecidableEq

namespace TokenStream

def cons (token : Token) (s : TokenStream) : TokenStream :=
  ⟨token :: s.tokens, s.ending⟩

/-- The next token or error, and the stream after it. At the end every pull yields the end of
input; an error comes only once. -/
def pull (s : TokenStream) : Except LexError Token × TokenStream :=
  match s.tokens, s.ending with
  | token :: tokens, ending => (.ok token, ⟨tokens, ending⟩)
  | [], .endOfInput position => (.ok ⟨.endOfInput, position⟩, s)
  | [], .failed error location => (.error error, ⟨[], .endOfInput location⟩)

end TokenStream

namespace Lexer

/-- A bound on how many tokens a lexer can still yield before one that takes no characters. -/
def size (l : Lexer) : Nat :=
  2 * l.cursor.rest.length + if l.ruleOpen then 1 else 0

/-- Everything the lexer yields. A delimiter without characters would be yielded again and again
from the same place; the stream ends after the first of them. No name comes before it, so no rule
can be read from such a stream. -/
def stream (l : Lexer) : TokenStream :=
  match l.next? with
  | (none, l) => ⟨[], .endOfInput l.location⟩
  | (some (.error error), after) => ⟨[], .failed error after.location⟩
  | (some (.ok token), after) =>
    if token.lexeme = .endOfInput then ⟨[], .endOfInput token.position⟩
    else if _h : after.size < l.size then after.stream.cons token
    else ⟨[token], .endOfInput after.location⟩
termination_by l.size

end Lexer

end TypedGrammar
