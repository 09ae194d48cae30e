import BlockLang.Grammar.Condition

/-!
# Statements

A statement is told by its first token: a fixed word, a brace, the declaration keyword, or else the
target of an assignment. Statements and blocks take one level each, so a block that stands as a
statement takes two; the parentheses of a condition take none.
-/

namespace BlockLang.Grammar

/-- One or more names with commas between them. The tokens that remain bound their number, and
without any a name is still expected. -/
def namesFrom (settings : Settings) : Nat → RuleM (List Token)
  | 0 => refuse .invalidIdentifier .identifier
  | bound + 1 => do
      let first ← name settings .invalidIdentifier .identifier
      if ← accept "," then
        return first :: (← namesFrom settings bound)
      else
        return [first]

/-- The declaration keyword and the names that it declares. -/
def declaration (settings : Settings) : RuleM Tree := do
  require settings.keyword (.word settings.keyword)
  return .declare (← namesFrom settings (← remaining))

/-- A target, the assignment token, and an expression. -/
def assignment (settings : Settings) (levels : Nat) : RuleM Tree := do
  let target ← name settings .invalidTarget .target
  require Token.assign .assignment
  return .assign target (← expression settings levels)

/-- The condition of a fixed word, in parentheses that take no level. -/
def headCondition (settings : Settings) (levels : Nat) (keyword : Keyword) : RuleM Tree := do
  require keyword.text (.word keyword.text)
  require "(" (.openCondition keyword)
  let tree ← condition settings levels
  require ")" (.closeCondition keyword)
  return tree

/-- A condition, a block, and perhaps another block; an `else` belongs to the nearest `if`. -/
def conditionalOver (settings : Settings) (levels : Nat) (block : RuleM (List Tree)) :
    RuleM Tree := do
  let test ← headCondition settings levels .ifWord
  let body ← block
  if ← accept Keyword.elseWord.text then
    return .ifThenElse test body (← block)
  else
    return .ifThen test body

/-- A condition and a block that is repeated. -/
def loopOver (settings : Settings) (levels : Nat) (block : RuleM (List Tree)) : RuleM Tree := do
  let test ← headCondition settings levels .whileWord
  return .loop test (← block)

/-- The statements up to a closing brace, each followed by a separator. The tokens that remain bound
their number, and without any the brace is missing. -/
def statementsFrom (statement : RuleM Tree) : Nat → RuleM (List Tree)
  | 0 => unterminated .closeBlock
  | bound + 1 => do
      match ← peek with
      | none => unterminated .closeBlock
      | some token =>
          if token = "\x7d" then
            return []
          else
            let first ← statement
            match ← peek with
            | none => unterminated .separator
            | some separator =>
                if separator = ";" then
                  advance
                  return first :: (← statementsFrom statement bound)
                else
                  refuse .missingSeparator .separator

/-- The statements of a block over the rule for one of them. -/
def statementsOver (statement : RuleM Tree) : RuleM (List Tree) := do
  statementsFrom statement (← remaining)

mutual

/-- A statement with this many levels left for it and what is in it. -/
def statement (settings : Settings) : Nat → RuleM Tree
  | 0 => tooDeep settings
  | levels + 1 => do
      match ← peek with
      | none => refuse .unexpectedToken .statement
      | some first =>
          record (.dispatched (← position) first)
          if first = Keyword.ifWord.text then
            conditionalOver settings levels (block settings levels)
          else if first = Keyword.whileWord.text then
            loopOver settings levels (block settings levels)
          else if first = "\x7b" then
            return .block (← block settings levels)
          else if first = settings.keyword then
            declaration settings
          else
            assignment settings levels

/-- The statements between braces, with this many levels left for the block and what is in it. -/
def block (settings : Settings) : Nat → RuleM (List Tree)
  | 0 => tooDeep settings
  | levels + 1 => do
      unless ← accept "\x7b" do
        unterminated .openBlock
      let statements ← statementsOver (statement settings levels)
      unless ← accept "\x7d" do
        unterminated .closeBlock
      return statements

end

def statements (settings : Settings) (levels : Nat) : RuleM (List Tree) :=
  statementsOver (statement settings levels)

def conditional (settings : Settings) (levels : Nat) : RuleM Tree :=
  conditionalOver settings levels (block settings levels)

def loop (settings : Settings) (levels : Nat) : RuleM Tree :=
  loopOver settings levels (block settings levels)

end BlockLang.Grammar
