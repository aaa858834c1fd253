import TypedGrammar.Unicode.Printable

/-!
# Quoted characters

How a message shows a single character: between single quotes, with the quote, the backslash and
the common controls escaped, and anything that would not show as itself by its code point.
-/

namespace TypedGrammar.Text

/-- The character as it stands between single quotes. -/
def escaped (c : Char) : List Char :=
  match c with
  | '\x00' => ['\\', '0']
  | '\t' => ['\\', 't']
  | '\n' => ['\\', 'n']
  | '\r' => ['\\', 'r']
  | '\\' => ['\\', '\\']
  | '\'' => ['\\', '\'']
  | c =>
    if Unicode.isPrintable c then [c]
    else ['\\', 'u', '\x7b'] ++ Nat.toDigits 16 c.toNat ++ ['\x7d']

/-- The character in single quotes. -/
def quoted (c : Char) : String :=
  String.ofList (['\''] ++ escaped c ++ ['\''])

end TypedGrammar.Text
