import BlockLang.Token.Walk

/-!
# Readers

A reader is a cursor as it is kept: an array of tokens and a position that nothing bounds. A move
only changes the position, and going to a checkpoint takes over whatever position it holds. Readers
are copied, and each copy may go to the checkpoints that were taken on the others.
-/

namespace BlockLang

/-- Tokens and the position of the front one. -/
structure Reader where
  tokens : Array Token
  position : Nat
  deriving DecidableEq, Repr, Inhabited

namespace Reader

/-- A reader at the first of the given tokens. -/
def ofList (tokens : List Token) : Reader := ⟨tokens.toArray, 0⟩

/-- The number of tokens not yet consumed; absent if the position lies beyond them, where it cannot
be subtracted. -/
def remaining? (reader : Reader) : Option Nat :=
  if reader.position ≤ reader.tokens.size then some (reader.tokens.size - reader.position) else none

def atEnd (reader : Reader) : Bool := decide (reader.tokens.size ≤ reader.position)

/-- The front token, absent where there is none. -/
def peek (reader : Reader) : Option Token := reader.tokens[reader.position]?

def check (reader : Reader) (lexeme : Token) : Bool := reader.peek == some lexeme

/-- The front token, or the error of an input that ends too early. -/
def front (reader : Reader) (expectation : Expectation) : Except SyntaxError Token :=
  match reader.peek with
  | some token => .ok token
  | none => .error (.endOfInput expectation reader.position)

def next (reader : Reader) : Reader := ⟨reader.tokens, reader.position + 1⟩

/-- Consumes the front token, and stays where there is none. -/
def advance (reader : Reader) (expectation : Expectation) : Except SyntaxError Token × Reader :=
  match reader.front expectation with
  | .ok token => (.ok token, reader.next)
  | .error error => (.error error, reader)

/-- Consumes the front token if it is exactly the given one, and tells whether it was. -/
def accept (reader : Reader) (lexeme : Token) : Bool × Reader :=
  if reader.check lexeme then (true, reader.next) else (false, reader)

def checkpoint (reader : Reader) : Cursor.Checkpoint := ⟨reader.position⟩

/-- Takes over the position of a checkpoint. -/
def rewind (reader : Reader) (checkpoint : Cursor.Checkpoint) : Reader :=
  ⟨reader.tokens, checkpoint.position⟩

/-- What can be asked of a reader. -/
inductive Action where
  | peek
  | front (expectation : Expectation)
  | check (lexeme : Token)
  | advance (expectation : Expectation)
  | accept (lexeme : Token)
  | checkpoint
  | rewind (checkpoint : Cursor.Checkpoint)
  | copy
  deriving DecidableEq, Repr

/-- What an action gives. -/
inductive Answer where
  | front (token : Option Token)
  | taken (result : Except SyntaxError Token)
  | flag (value : Bool)
  | saved (checkpoint : Cursor.Checkpoint)
  | copied (copy : Reader)
  | moved

/-- What an action gives, and the reader after it. -/
def step (reader : Reader) : Action → Answer × Reader
  | .peek => (.front reader.peek, reader)
  | .front expectation => (.taken (reader.front expectation), reader)
  | .check lexeme => (.flag (reader.check lexeme), reader)
  | .advance expectation =>
      let (result, after) := reader.advance expectation
      (.taken result, after)
  | .accept lexeme =>
      let (accepted, after) := reader.accept lexeme
      (.flag accepted, after)
  | .checkpoint => (.saved reader.checkpoint, reader)
  | .rewind checkpoint => (.moved, reader.rewind checkpoint)
  | .copy => (.copied reader, reader)

/-- What a list of actions gives, each with the reader after it. -/
def trace (reader : Reader) : List Action → List (Answer × Reader)
  | [] => []
  | action :: actions => reader.step action :: (reader.step action).2.trace actions

/-! ## Readers in place of cursors -/

/-- What is asked of a reader in a walk that has taken some checkpoints; nothing is if the checkpoint
to go to has not been taken. -/
def Action.ofWalk (saved : Array Cursor.Checkpoint) : Walk.Action → Option Action
  | .peek => some .peek
  | .front expectation => some (.front expectation)
  | .check lexeme => some (.check lexeme)
  | .advance expectation => some (.advance expectation)
  | .accept lexeme => some (.accept lexeme)
  | .checkpoint => some .checkpoint
  | .rewind index => saved[index]?.map .rewind
  | .copy => some .copy

/-- An answer as a walk gives it that has taken this many checkpoints. -/
def Answer.inWalk (count : Nat) : Answer → Walk.Answer
  | .front token => .front token
  | .taken (.ok token) => .taken token
  | .taken (.error error) => .failed error
  | .flag value => .flag value
  | .saved _ => .saved count
  | .copied _ | .moved => .moved

/-- The checkpoints taken so far, with the one that an answer may be. -/
def Answer.remember (saved : Array Cursor.Checkpoint) : Answer → Array Cursor.Checkpoint
  | .saved checkpoint => saved.push checkpoint
  | _ => saved

/-- The answers to a walk over a reader, each with the reader after it. -/
def walk (reader : Reader) (saved : Array Cursor.Checkpoint) :
    List Walk.Action → List (Walk.Answer × Reader)
  | [] => []
  | action :: actions =>
      match Action.ofWalk saved action with
      | none => (.moved, reader) :: reader.walk saved actions
      | some asked =>
          let (answer, after) := reader.step asked
          (answer.inWalk saved.size, after) :: after.walk (answer.remember saved) actions

end Reader

/-- Readers that descend from one by copying, and for every checkpoint that was taken on one of them
that reader as it then was. -/
structure Readers where
  inUse : List Reader
  saved : List Reader := []

namespace Readers

/-- One reader is asked something, and goes to no other checkpoints than those that were taken; a
checkpoint is taken on it; or it is copied. -/
inductive Step : Readers → Readers → Prop
  | act {before after saved : List Reader} (reader : Reader) (action : Reader.Action)
      (taken : ∀ checkpoint, action = .rewind checkpoint →
        ∃ origin ∈ saved, origin.checkpoint = checkpoint) :
      Step ⟨before ++ reader :: after, saved⟩ ⟨before ++ (reader.step action).2 :: after, saved⟩
  | save {before after saved : List Reader} (reader : Reader) :
      Step ⟨before ++ reader :: after, saved⟩ ⟨before ++ reader :: after, reader :: saved⟩
  | copy {before after saved : List Reader} (reader : Reader) :
      Step ⟨before ++ reader :: after, saved⟩ ⟨before ++ reader :: reader :: after, saved⟩

/-- What any number of steps make of one reader at the first of the given tokens. -/
inductive Reached (tokens : List Token) : Readers → Prop
  | start : Reached tokens ⟨[.ofList tokens], []⟩
  | step {readers next : Readers} (reached : Reached tokens readers) (step : Step readers next) :
      Reached tokens next

end Readers

end BlockLang
