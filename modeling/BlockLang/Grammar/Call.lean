import BlockLang.Grammar.Rule

/-!
# Calls

The rules that a session can run and the parts of conditions make up the calls of the grammar. Every
rule calls others, and may come back to itself only inside a level that it has opened.
-/

namespace BlockLang

namespace Grammar

/-- The rules that are called, by a session or by each other. -/
inductive Call where
  | program
  | standalone
  | statement
  | statements
  | block
  | conditional
  | loop
  | declaration
  | assignment
  | head (word : Keyword)
  | expression
  | term
  | factor
  | condition
  | conjunction
  | atom
  | group
  | comparison
  deriving DecidableEq, Repr

namespace Call

/-- What a call gives. -/
@[reducible] def Value : Call → Type
  | .statements | .block => List Tree
  | _ => Tree

/-- The rule of a call, with this many levels left for it and what is in it. -/
def rule (settings : Settings) (levels : Nat) : (call : Call) → RuleM call.Value
  | .program => Grammar.program settings levels
  | .standalone => Grammar.standalone settings levels
  | .statement => Grammar.statement settings levels
  | .statements => Grammar.statements settings levels
  | .block => Grammar.block settings levels
  | .conditional => Grammar.conditional settings levels
  | .loop => Grammar.loop settings levels
  | .declaration => Grammar.declaration settings
  | .assignment => Grammar.assignment settings levels
  | .head word => headCondition settings levels word
  | .expression => Grammar.expression settings levels
  | .term => Grammar.term settings levels
  | .factor => Grammar.factor settings levels
  | .condition => Grammar.condition settings levels
  | .conjunction => conjunctionOver settings levels (conditionGroup settings levels)
  | .atom => atomOver settings levels (conditionGroup settings levels)
  | .group => conditionGroup settings levels
  | .comparison => Grammar.comparison settings levels

end Call

end Grammar

open Grammar

namespace Rule

/-- The call that runs a rule. -/
def call : Rule → Call
  | .program => .program
  | .standalone => .standalone
  | .statement => .statement
  | .statements => .statements
  | .block => .block
  | .conditional => .conditional
  | .loop => .loop
  | .declaration => .declaration
  | .assignment => .assignment
  | .expression => .expression
  | .term => .term
  | .factor => .factor
  | .condition => .condition

/-- What a rule gives, as what was read. -/
def parsed : (rule : Rule) → rule.call.Value → Parsed
  | .statements => .statements
  | .block => .block
  | .program | .standalone | .statement | .conditional | .loop | .declaration | .assignment
  | .expression | .term | .factor | .condition => .tree

/-- A rule is run by its call with all levels left. -/
theorem run_eq (settings : Settings) (rule : Rule) :
    rule.run settings = rule.parsed <$> rule.call.rule settings settings.maxDepth := by
  cases rule <;> rfl

end Rule

end BlockLang
