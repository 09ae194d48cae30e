import BlockLang.Grammar.Call

/-!
# Counting open levels

The rules of the grammar are told how many levels are left to them. The same can be done with one
counter in the state: a rule that opens a level adds one, reads what is inside, and takes one away
again, whether it succeeds or fails. Each call of a rule by another is bounded by a height here, so
that the rules may be written as calls of each other, and running out of height is told apart from a
syntax error.
-/

namespace BlockLang

namespace Grammar

/-- A state and the number of levels that are open in it. -/
structure Counted where
  state : State
  depth : Nat

/-- Why a counted rule stops: it refuses a token, or there is no height left for a call. -/
inductive Halt where
  | refused (error : SyntaxError)
  | exhausted

/-- A rule that counts the open levels. -/
abbrev CountedM := EStateM Halt Counted

namespace CountedM

variable {α : Type}

/-- A rule that opens no level. -/
def step (rule : RuleM α) : CountedM α := fun start =>
  match rule.run start.state with
  | .ok value state => .ok value ⟨state, start.depth⟩
  | .error error state => .error (.refused error) ⟨state, start.depth⟩

/-- Opens a level if the limit admits one more, and closes it however the rule inside ends. -/
def nested (settings : Settings) (rule : CountedM α) : CountedM α := fun start =>
  if settings.maxDepth ≤ start.depth then (step (tooDeep settings)).run start
  else
    match rule.run ⟨start.state, start.depth + 1⟩ with
    | .ok value finish => .ok value ⟨finish.state, finish.depth - 1⟩
    | .error halt finish => .error halt ⟨finish.state, finish.depth - 1⟩

/-- Further operands of admitted operators, as many as the bound allows. -/
def chainFrom (admits : Operator → Bool) (operand : CountedM Tree) : Nat → Tree → CountedM Tree
  | 0, left => return left
  | bound + 1, left => do
      match ← step (acceptOperator admits) with
      | some operator =>
          let right ← operand
          chainFrom admits operand bound (.binary operator left right)
      | none => return left

/-- Operands with admitted operators between them, grouped to the left. -/
def chain (admits : Operator → Bool) (operand : CountedM Tree) : CountedM Tree := do
  let left ← operand
  chainFrom admits operand (← step remaining) left

/-- The statements up to a closing brace, as many as the bound allows. -/
def statementsFrom (statement : CountedM Tree) : Nat → CountedM (List Tree)
  | 0 => step (unterminated .closeBlock)
  | bound + 1 => do
      match ← step peek with
      | none => step (unterminated .closeBlock)
      | some token =>
          if token = "\x7d" then
            return []
          else
            let first ← statement
            match ← step peek with
            | none => step (unterminated .separator)
            | some separator =>
                if separator = ";" then
                  step advance
                  return first :: (← statementsFrom statement bound)
                else
                  step (refuse .missingSeparator .separator)

/-- A group, or else a comparison from the same place, with as many levels open as the group has
left open. -/
def groupOrComparison (group comparison : CountedM Tree) : CountedM Tree := fun start =>
  match group.run start with
  | .ok tree finish => .ok tree finish
  | .error .exhausted stop => .error .exhausted stop
  | .error (.refused first) stop =>
      if first.kind = .nestingTooDeep then .error (.refused first) stop
      else
        match comparison.run ⟨stop.state.back start.state.cursor, stop.depth⟩ with
        | .ok tree finish => .ok tree finish
        | .error .exhausted finish => .error .exhausted finish
        | .error (.refused second) finish => .error (.refused (farther first second)) finish

end CountedM

namespace Call

open CountedM

/-- A call over the calls that it makes. -/
def body (settings : Settings) (self : (call : Call) → CountedM call.Value) :
    (call : Call) → CountedM call.Value
  | .program => do
      step (do record (.begun (← remaining)))
      let statements ← self .block
      step (requireEnd .programEnd)
      return .block statements
  | .standalone => do
      let tree ← self .statement
      let _ ← step (accept ";")
      step (requireEnd .statementEnd)
      return tree
  | .statement => nested settings do
      match ← step peek with
      | none => step (refuse .unexpectedToken .statement)
      | some first =>
          step (do record (.dispatched (← position) first))
          if first = Keyword.ifWord.text then
            self .conditional
          else if first = Keyword.whileWord.text then
            self .loop
          else if first = "\x7b" then
            return .block (← self .block)
          else if first = settings.keyword then
            self .declaration
          else
            self .assignment
  | .statements => do CountedM.statementsFrom (self .statement) (← step remaining)
  | .block => nested settings do
      step (do unless ← accept "\x7b" do unterminated .openBlock)
      let statements ← self .statements
      step (do unless ← accept "\x7d" do unterminated .closeBlock)
      return statements
  | .conditional => do
      let test ← self (.head .ifWord)
      let body ← self .block
      if ← step (accept Keyword.elseWord.text) then
        return .ifThenElse test body (← self .block)
      else
        return .ifThen test body
  | .loop => do
      let test ← self (.head .whileWord)
      return .loop test (← self .block)
  | .declaration => step (Grammar.declaration settings)
  | .assignment => do
      let target ← step (name settings .invalidTarget .target)
      step (require Token.assign .assignment)
      return .assign target (← self .expression)
  | .head word => do
      step (require word.text (.word word.text))
      step (require "(" (.openCondition word))
      let tree ← self .condition
      step (require ")" (.closeCondition word))
      return tree
  | .expression => CountedM.chain (·.family == .additive) (self .term)
  | .term => CountedM.chain (·.family == .multiplicative) (self .factor)
  | .factor => do
      if ← step (check "(") then
        nested settings do
          step advance
          let tree ← self .expression
          step (require ")" .closeOperand)
          return tree
      else
        step (operand settings)
  | .condition => CountedM.chain (· == .or) (self .conjunction)
  | .conjunction => CountedM.chain (· == .and) (self .atom)
  | .atom => do
      if ← step (check "(") then
        CountedM.groupOrComparison (self .group) (self .comparison)
      else
        self .comparison
  | .group => nested settings do
      step (require "(" .openGroup)
      let tree ← self .condition
      step (require ")" .closeGroup)
      return tree
  | .comparison => do
      let left ← self .expression
      match ← step (acceptOperator Operator.isRelational) with
      | some operator =>
          let right ← self .expression
          return .binary operator left right
      | none => step (refuse .missingRelation .relation)

/-- A call with this height for the calls inside each other, itself included. -/
def counted (settings : Settings) : Nat → (call : Call) → CountedM call.Value
  | 0, _ => fun start => .error .exhausted start
  | height + 1, call => call.body settings (counted settings height)

end Call

end Grammar

open Grammar

namespace Rule

/-- What a rule gives when the open levels are counted, and the state after it. -/
def countedCall (settings : Settings) (height : Nat) (rule : Rule) (start : Counted) :
    Except Halt Parsed × Counted :=
  match (rule.parsed <$> rule.call.counted settings height).run start with
  | .ok parsed finish => (.ok parsed, finish)
  | .error halt finish => (.error halt, finish)

/-- What a list of rules gives when the open levels are counted, each with the state after it. -/
def countedCalls (settings : Settings) (height : Nat) :
    List Rule → Counted → List (Except Halt Parsed × Counted)
  | [], _ => []
  | rule :: rules, start =>
      let outcome := rule.countedCall settings height start
      outcome :: countedCalls settings height rules outcome.2

end Rule

end BlockLang
