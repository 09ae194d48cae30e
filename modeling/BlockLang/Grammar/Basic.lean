import BlockLang.Grammar.Event
import BlockLang.Settings
import BlockLang.Token.Cursor
import BlockLang.Tree.Basic

/-!
# Steps of the grammar

A rule reads tokens from a cursor and gives a value or the first syntax error. The state is kept in
either case, so the cursor stands where the rule stopped. All rules are made of the steps below:
every error is raised at the cursor and names the front token.
-/

namespace BlockLang

namespace Grammar

/-- Where a session stands and what it has recorded. -/
structure State where
  cursor : Cursor
  log : Array Event := #[]
  deriving Inhabited

/-- The state after the front token has been consumed and recorded; at the end nothing changes. -/
def State.advanced (state : State) : State :=
  match state.cursor.peek with
  | some token => ⟨state.cursor.next, state.log.push (.consumed state.cursor.position token)⟩
  | none => state

/-- A rule gives a value or a syntax error, and the state at which it stopped. -/
abbrev RuleM := EStateM SyntaxError State

/-- The error of a kind and cause at the cursor. -/
def errorAt (cursor : Cursor) (kind : ErrorKind) (cause : ErrorCause) : SyntaxError :=
  ⟨kind, cause, cursor.position, cursor.peek⟩

/-- Records an event. -/
def record (event : Event) : RuleM Unit := fun state =>
  .ok () ⟨state.cursor, state.log.push event⟩

/-- The front token, absent at the end. -/
def peek : RuleM (Option Token) := fun state => .ok state.cursor.peek state

/-- True when the front token is exactly the given one. -/
def check (lexeme : Token) : RuleM Bool := fun state => .ok (state.cursor.check lexeme) state

def position : RuleM Nat := fun state => .ok state.cursor.position state

/-- The number of tokens not yet consumed. -/
def remaining : RuleM Nat := fun state => .ok state.cursor.remaining state

/-- Fails at the cursor. -/
def fail {α : Type} (kind : ErrorKind) (cause : ErrorCause) : RuleM α := fun state =>
  .error (errorAt state.cursor kind cause) state

/-- Fails because the front token is not what was expected; at the end of input that is the kind of
the error, whichever kind was asked for. -/
def refuse {α : Type} (kind : ErrorKind) (expectation : Expectation) : RuleM α := fun state =>
  let kind := if state.cursor.peek.isSome then kind else .endOfInput
  .error (errorAt state.cursor kind (.expected expectation)) state

/-- Fails because a block does not go on as it must, also at the end of input. -/
def unterminated {α : Type} (expectation : Expectation) : RuleM α :=
  fail .unterminatedBlock (.expected expectation)

/-- Fails because no more levels may nest. -/
def tooDeep {α : Type} (settings : Settings) : RuleM α :=
  fail .nestingTooDeep (.nestingExceeds settings.maxDepth)

/-- Consumes the front token, whatever it is, and records it; at the end nothing happens. -/
def advance : RuleM Unit := fun state => .ok () state.advanced

/-- Consumes the front token if it is exactly the given one, and tells whether it was. -/
def accept (lexeme : Token) : RuleM Bool := fun state =>
  let (accepted, cursor) := state.cursor.accept lexeme
  .ok accepted ⟨cursor, state.log⟩

/-- Consumes the front token if it is an operator that is admitted, and tells which one it was. -/
def acceptOperator (admits : Operator → Bool) : RuleM (Option Operator) := fun state =>
  match (state.cursor.peek.bind Operator.ofText?).filter admits with
  | some operator => .ok (some operator) ⟨state.cursor.next, state.log⟩
  | none => .ok none state

/-- Consumes exactly the given token, which is what was expected. -/
def require (lexeme : Token) (expectation : Expectation) : RuleM Unit := do
  unless ← accept lexeme do
    refuse .unexpectedToken expectation

/-- Requires that every token has been consumed. -/
def requireEnd (expectation : Expectation) : RuleM Unit := do
  if (← peek).isSome then
    refuse .unexpectedToken expectation

/-- Consumes a token that can name a variable. -/
def name (settings : Settings) (kind : ErrorKind) (expectation : Expectation) : RuleM Token := do
  match ← peek with
  | some token =>
      if token.isName settings.keyword then
        advance
        return token
      else
        refuse kind expectation
  | none => refuse kind expectation

/-- Further operands of admitted operators, each joined to all that was read before it. The tokens
that remain bound the number of operators. -/
def chainFrom (admits : Operator → Bool) (operand : RuleM Tree) : Nat → Tree → RuleM Tree
  | 0, left => return left
  | bound + 1, left => do
      match ← acceptOperator admits with
      | some operator =>
          let right ← operand
          chainFrom admits operand bound (.binary operator left right)
      | none => return left

/-- Operands with admitted operators between them, grouped to the left. -/
def chain (admits : Operator → Bool) (operand : RuleM Tree) : RuleM Tree := do
  let left ← operand
  chainFrom admits operand (← remaining) left

@[simp] theorem run_record (event : Event) (state : State) :
    (record event).run state = .ok () ⟨state.cursor, state.log.push event⟩ := rfl

@[simp] theorem run_peek (state : State) : peek.run state = .ok state.cursor.peek state := rfl

@[simp] theorem run_check (lexeme : Token) (state : State) :
    (check lexeme).run state = .ok (state.cursor.check lexeme) state := rfl

@[simp] theorem run_position (state : State) :
    position.run state = .ok state.cursor.position state := rfl

@[simp] theorem run_remaining (state : State) :
    remaining.run state = .ok state.cursor.remaining state := rfl

@[simp] theorem run_fail {α : Type} (kind : ErrorKind) (cause : ErrorCause) (state : State) :
    (fail kind cause : RuleM α).run state = .error (errorAt state.cursor kind cause) state := rfl

@[simp] theorem run_unterminated {α : Type} (expectation : Expectation) (state : State) :
    (unterminated expectation : RuleM α).run state =
      .error (errorAt state.cursor .unterminatedBlock (.expected expectation)) state := rfl

@[simp] theorem run_tooDeep {α : Type} (settings : Settings) (state : State) :
    (tooDeep settings : RuleM α).run state =
      .error (errorAt state.cursor .nestingTooDeep (.nestingExceeds settings.maxDepth)) state := rfl

@[simp] theorem run_advance (state : State) : advance.run state = .ok () state.advanced := rfl

theorem run_refuse {α : Type} (kind : ErrorKind) (expectation : Expectation) (state : State) :
    (refuse kind expectation : RuleM α).run state =
      .error (errorAt state.cursor (if state.cursor.peek.isSome then kind else .endOfInput)
        (.expected expectation)) state := rfl

theorem run_accept (lexeme : Token) (state : State) :
    (accept lexeme).run state =
      if state.cursor.check lexeme then .ok true ⟨state.cursor.next, state.log⟩
      else .ok false state := by
  change EStateM.Result.ok (state.cursor.accept lexeme).1
    (State.mk (state.cursor.accept lexeme).2 state.log) = _
  unfold Cursor.accept
  split <;> rfl

theorem run_acceptOperator (admits : Operator → Bool) (state : State) :
    (acceptOperator admits).run state =
      match (state.cursor.peek.bind Operator.ofText?).filter admits with
      | some operator => .ok (some operator) ⟨state.cursor.next, state.log⟩
      | none => .ok none state := rfl

theorem run_require (lexeme : Token) (expectation : Expectation) (state : State) :
    (require lexeme expectation).run state =
      if state.cursor.check lexeme then .ok () ⟨state.cursor.next, state.log⟩
      else (refuse .unexpectedToken expectation : RuleM Unit).run state := by
  rw [require, EStateM.run_bind, run_accept]
  by_cases matched : state.cursor.check lexeme <;> simp [matched]

theorem run_requireEnd (expectation : Expectation) (state : State) :
    (requireEnd expectation).run state =
      if state.cursor.peek.isSome then
        (refuse .unexpectedToken expectation : RuleM Unit).run state
      else .ok () state := by
  rw [requireEnd, EStateM.run_bind, run_peek]
  by_cases present : state.cursor.peek.isSome <;> simp [present]

end Grammar

end BlockLang
