import BlockLang.Token.Cursor

/-!
# Walks

A walk is a cursor together with the checkpoints taken on it so far. Its actions are everything that
can be asked of a cursor; each gives an answer and leaves a walk.
-/

namespace BlockLang

/-- A cursor and the checkpoints taken on it, in order. -/
structure Walk where
  cursor : Cursor
  saved : Array Cursor.Checkpoint := #[]
  deriving Inhabited

namespace Walk

/-- What can be asked of a cursor. -/
inductive Action where
  | peek
  | front (expectation : Expectation)
  | check (lexeme : Token)
  | advance (expectation : Expectation)
  | accept (lexeme : Token)
  | checkpoint
  | rewind (index : Nat)
  | copy
  deriving DecidableEq, Repr, Inhabited

/-- What an action tells. -/
inductive Answer where
  | front (token : Option Token)
  | taken (token : Token)
  | failed (error : SyntaxError)
  | flag (value : Bool)
  | saved (index : Nat)
  | moved
  deriving DecidableEq, Repr, Inhabited

/-- Moves a walk to one of its checkpoints; there is nowhere to go for an index not yet taken. -/
def rewind (walk : Walk) (index : Nat) : Walk :=
  match walk.saved[index]? with
  | some checkpoint => ⟨walk.cursor.rewind checkpoint, walk.saved⟩
  | none => walk

/-- The answer to one action and the walk after it. A copy of a cursor is equal to it, so a walk
goes on unchanged with a copy in place of its cursor. -/
def step (walk : Walk) : Action → Answer × Walk
  | .peek => (.front walk.cursor.peek, walk)
  | .front expectation =>
      match walk.cursor.front expectation with
      | .ok token => (.taken token, walk)
      | .error error => (.failed error, walk)
  | .check lexeme => (.flag (walk.cursor.check lexeme), walk)
  | .advance expectation =>
      match walk.cursor.advance expectation with
      | .ok (token, cursor) => (.taken token, ⟨cursor, walk.saved⟩)
      | .error error => (.failed error, walk)
  | .accept lexeme =>
      let (accepted, cursor) := walk.cursor.accept lexeme
      (.flag accepted, ⟨cursor, walk.saved⟩)
  | .checkpoint =>
      (.saved walk.saved.size, ⟨walk.cursor, walk.saved.push walk.cursor.checkpoint⟩)
  | .rewind index => (.moved, walk.rewind index)
  | .copy => (.moved, walk)

/-- The answers to a list of actions, each with the walk after it. -/
def trace (walk : Walk) : List Action → List (Answer × Walk)
  | [] => []
  | action :: actions =>
      let outcome := walk.step action
      outcome :: outcome.2.trace actions

end Walk

end BlockLang
