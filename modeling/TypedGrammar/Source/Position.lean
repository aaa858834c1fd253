import TypedGrammar.Text.Line

/-!
# Positions in grammar source

A position counts bytes from zero and lines and columns from one. A carriage return and the line
feed after it end one line.
-/

namespace TypedGrammar

/-- A place in grammar source. -/
structure Position where
  /-- Number of bytes before the place. -/
  offset : Nat
  line : Nat
  /-- One more than the number of characters before the place on its line. -/
  column : Nat
  deriving DecidableEq, Repr

namespace Position

def start : Position :=
  ⟨0, 1, 1⟩

/-- The position as messages show it. -/
def text (p : Position) : String :=
  s!"{p.line}:{p.column}"

/-- The position after `c`, when `after` follows. A carriage return before a line feed moves only
the offset. -/
def step (p : Position) (c : Char) (after : List Char) : Position :=
  if c = '\n' ∨ (c = '\r' ∧ after.head? ≠ some '\n') then
    ⟨p.offset + c.utf8Size, p.line + 1, 1⟩
  else if c = '\r' then
    ⟨p.offset + c.utf8Size, p.line, p.column⟩
  else
    ⟨p.offset + c.utf8Size, p.line, p.column + 1⟩

def advance (p : Position) : List Char → Position
  | [] => p
  | c :: after => (p.step c after).advance after

theorem advance_offset (p : Position) (text : List Char) :
    (p.advance text).offset = p.offset + byteLength text := by
  induction text generalizing p with
  | nil => rfl
  | cons c text ih =>
    have hstep : (p.step c text).offset = p.offset + c.utf8Size := by
      unfold step
      split
      · rfl
      · split <;> rfl
    rw [advance, ih, hstep, byteLength, Nat.add_assoc]

end Position

end TypedGrammar
