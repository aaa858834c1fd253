/-!
# Lines

A `Line` is text without a line break. Every literal and every word of a name is one.
`Line.ofText?` makes a line and blames the first line break otherwise.
-/

namespace TypedGrammar

/-- Whether the character is a line feed or a carriage return. -/
def isLineBreak (c : Char) : Bool :=
  c == '\n' || c == '\r'

/-- Number of bytes of the text in UTF-8. -/
def byteLength : List Char → Nat
  | [] => 0
  | c :: text => c.utf8Size + byteLength text

theorem byteLength_append (a b : List Char) :
    byteLength (a ++ b) = byteLength a + byteLength b := by
  induction a with
  | nil => simp [byteLength]
  | cons c a ih => rw [List.cons_append, byteLength, byteLength, ih, Nat.add_assoc]

/-- Why text is not a line: the first line break in it, and how many bytes stand before it. -/
inductive LineError where
  | lineFeed (offset : Nat)
  | carriageReturn (offset : Nat)
  deriving DecidableEq, Repr

def LineError.message : LineError → String
  | .lineFeed offset => String.join ["line feed at byte ", toString offset]
  | .carriageReturn offset => String.join ["carriage return at byte ", toString offset]

/-- Text without a line break. -/
structure Line where
  chars : List Char
  unbroken : chars.all (!isLineBreak ·) = true
  deriving DecidableEq

namespace Line

theorem ext {a b : Line} (h : a.chars = b.chars) : a = b := by
  cases a; cases b; cases h; rfl

theorem isLineBreak_eq_false {line : Line} {c : Char} (h : c ∈ line.chars) :
    isLineBreak c = false := by
  simpa using List.all_eq_true.mp line.unbroken c h

/-- The error of text whose first line break is `c` after the characters `before`. -/
def breakError (before : List Char) (c : Char) : LineError :=
  if c = '\n' then .lineFeed (byteLength before) else .carriageReturn (byteLength before)

/-- The text as a line, unless it holds a line break. -/
def ofText? (text : List Char) : Except LineError Line :=
  match h : text.find? isLineBreak with
  | none => .ok ⟨text, by simpa using h⟩
  | some c => .error (breakError (text.takeWhile (!isLineBreak ·)) c)

theorem ofText?_chars (line : Line) : ofText? line.chars = .ok line := by
  unfold ofText?
  split
  · rfl
  · rename_i c h
    have := isLineBreak_eq_false (List.mem_of_find?_eq_some h)
    simp [List.find?_some h] at this

theorem chars_of_ofText? {text : List Char} {line : Line} (h : ofText? text = .ok line) :
    line.chars = text := by
  unfold ofText? at h
  split at h
  · cases h; rfl
  · cases h

end Line

end TypedGrammar
