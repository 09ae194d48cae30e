import BlockLang.SyntaxError
import BlockLang.Text.Blank

/-!
# The token cursor

A cursor is a fixed array of tokens and a position in it, which may be its end. Tokens before the
position have been consumed and those after it are the rest; nothing is ever removed. Each operation
is described by what it does to the rest.
-/

namespace BlockLang

/-- A position in an array of tokens. -/
structure Cursor where
  tokens : Array Token
  position : Nat
  position_le : position ≤ tokens.size
  deriving DecidableEq

namespace Cursor

/-- A cursor at the first of the given tokens. -/
def ofArray (tokens : Array Token) : Cursor := ⟨tokens, 0, Nat.zero_le _⟩

/-- A cursor at the first of the given tokens. -/
def ofList (tokens : List Token) : Cursor := ofArray tokens.toArray

/-- A cursor at the first word of a text. -/
def ofText (text : String) : Cursor := ofList (Text.words text)

instance : Inhabited Cursor := ⟨ofArray #[]⟩

/-- The number of tokens not yet consumed. -/
def remaining (cursor : Cursor) : Nat := cursor.tokens.size - cursor.position

/-- True when every token has been consumed. -/
def atEnd (cursor : Cursor) : Bool := cursor.position == cursor.tokens.size

/-- The tokens not yet consumed. -/
def rest (cursor : Cursor) : List Token := cursor.tokens.toList.drop cursor.position

/-- The front token, absent at the end. -/
def peek (cursor : Cursor) : Option Token := cursor.tokens[cursor.position]?

/-- True when the front token is exactly the given one. -/
def check (cursor : Cursor) (lexeme : Token) : Bool := cursor.peek == some lexeme

/-- The cursor after the front token; at the end it stays. -/
def next (cursor : Cursor) : Cursor :=
  if inside : cursor.position < cursor.tokens.size then
    ⟨cursor.tokens, cursor.position + 1, inside⟩
  else cursor

/-- The front token, or the error of an input that ends too early. -/
def front (cursor : Cursor) (expectation : Expectation) : Except SyntaxError Token :=
  match cursor.peek with
  | some token => .ok token
  | none => .error (.endOfInput expectation cursor.position)

/-- Consumes the front token, whatever it is. -/
def advance (cursor : Cursor) (expectation : Expectation) : Except SyntaxError (Token × Cursor) :=
  (cursor.front expectation).map fun token => (token, cursor.next)

/-- Consumes the front token if it is exactly the given one, and tells whether it was. -/
def accept (cursor : Cursor) (lexeme : Token) : Bool × Cursor :=
  if cursor.check lexeme then (true, cursor.next) else (false, cursor)

/-- A remembered position. -/
structure Checkpoint where
  position : Nat
  deriving DecidableEq, Repr, Inhabited

def checkpoint (cursor : Cursor) : Checkpoint := ⟨cursor.position⟩

/-- Moves to a remembered position, and no farther than the end. -/
def rewind (cursor : Cursor) (checkpoint : Checkpoint) : Cursor :=
  ⟨cursor.tokens, min checkpoint.position cursor.tokens.size, Nat.min_le_right _ _⟩

@[simp] theorem position_add_remaining (cursor : Cursor) :
    cursor.position + cursor.remaining = cursor.tokens.size :=
  Nat.add_sub_of_le cursor.position_le

@[simp] theorem length_rest (cursor : Cursor) : cursor.rest.length = cursor.remaining := by
  simp [rest, remaining]

@[simp] theorem head?_rest (cursor : Cursor) : cursor.rest.head? = cursor.peek := by
  simp [rest, peek]

@[simp] theorem rest_ofList (tokens : List Token) : (ofList tokens).rest = tokens := by
  simp [ofList, ofArray, rest]

theorem atEnd_iff (cursor : Cursor) : cursor.atEnd = true ↔ cursor.rest = [] := by
  have bound := cursor.position_le
  simp only [atEnd, rest, beq_iff_eq, List.drop_eq_nil_iff, Array.length_toList]
  omega

@[simp] theorem rest_next (cursor : Cursor) : cursor.next.rest = cursor.rest.tail := by
  unfold next
  split
  next inside => simp [rest]
  next outside =>
    have ended : cursor.rest = [] := by
      simp only [rest, List.drop_eq_nil_iff, Array.length_toList]
      omega
    simp [ended]

@[simp] theorem tokens_next (cursor : Cursor) : cursor.next.tokens = cursor.tokens := by
  unfold next
  split <;> rfl

@[simp] theorem rewind_checkpoint (cursor : Cursor) : cursor.rewind cursor.checkpoint = cursor := by
  cases cursor with
  | mk tokens position bound => simp [rewind, checkpoint, Nat.min_eq_left bound]

end Cursor

end BlockLang
