import BlockLang.Grammar.Statement
import BlockLang.Tree.Dump
import BlockLang.Tree.Source

/-!
# Rules

Every rule of the grammar can be run by itself, from any state and with all levels left. A program
is one block and nothing after it; a standalone statement may end in a separator.
-/

namespace BlockLang

/-- The rules of the grammar. -/
inductive Rule where
  | program
  | standalone
  | statement
  | statements
  | block
  | conditional
  | loop
  | declaration
  | assignment
  | expression
  | term
  | factor
  | condition
  deriving DecidableEq, Repr, Inhabited

/-- What a rule gives: a tree, or the statements of a block or of a list. -/
inductive Parsed where
  | tree (tree : Tree)
  | block (statements : List Tree)
  | statements (statements : List Tree)
  deriving Inhabited

namespace Parsed

/-- What was read as one tree, where statements stand for their block. -/
def toTree : Parsed → Tree
  | .tree value => value
  | .block body => .block body
  | .statements body => .block body

/-- What was read as a record. -/
def record : Parsed → Text.Record
  | .tree value => value.record
  | .block body => Tree.blockRecord (Tree.records body)
  | .statements body => .list (Tree.records body)

end Parsed

namespace Grammar

/-- One block and nothing after it. -/
def program (settings : Settings) (levels : Nat) : RuleM Tree := do
  record (.begun (← remaining))
  let statements ← block settings levels
  requireEnd .programEnd
  return .block statements

/-- One statement, perhaps a separator, and nothing after it. -/
def standalone (settings : Settings) (levels : Nat) : RuleM Tree := do
  let tree ← statement settings levels
  let _ ← accept ";"
  requireEnd .statementEnd
  return tree

/-- Consumes up to the given number of tokens, stopping at the end. -/
def skip : Nat → State → State
  | 0, state => state
  | count + 1, state => if state.cursor.atEnd then state else skip count state.advanced

end Grammar

/-- The rule at a state, with all levels of the settings left. -/
def Rule.run (settings : Settings) : Rule → Grammar.RuleM Parsed
  | .program => .tree <$> Grammar.program settings settings.maxDepth
  | .standalone => .tree <$> Grammar.standalone settings settings.maxDepth
  | .statement => .tree <$> Grammar.statement settings settings.maxDepth
  | .statements => .statements <$> Grammar.statements settings settings.maxDepth
  | .block => .block <$> Grammar.block settings settings.maxDepth
  | .conditional => .tree <$> Grammar.conditional settings settings.maxDepth
  | .loop => .tree <$> Grammar.loop settings settings.maxDepth
  | .declaration => .tree <$> Grammar.declaration settings
  | .assignment => .tree <$> Grammar.assignment settings settings.maxDepth
  | .expression => .tree <$> Grammar.expression settings settings.maxDepth
  | .term => .tree <$> Grammar.term settings settings.maxDepth
  | .factor => .tree <$> Grammar.factor settings settings.maxDepth
  | .condition => .tree <$> Grammar.condition settings settings.maxDepth

/-- Settings and the state at which the next rule starts. -/
structure Session where
  settings : Settings
  state : Grammar.State
  deriving Inhabited

namespace Session

/-- Opens a session at a state, which is recorded. -/
def start (settings : Settings) (state : Grammar.State) : Session :=
  ⟨settings, ⟨state.cursor, state.log.push (.opened state.cursor.remaining)⟩⟩

/-- Opens a session at the first of some tokens. -/
def ofTokens (settings : Settings) (tokens : List Token) : Session :=
  start settings ⟨.ofList tokens, #[]⟩

/-- True once every token has been consumed. -/
def finished (session : Session) : Bool := session.state.cursor.atEnd

/-- What a rule gives in a session, and the session after it. -/
def call (session : Session) (rule : Rule) : Except SyntaxError Parsed × Session :=
  match (rule.run session.settings).run session.state with
  | .ok parsed state => (.ok parsed, ⟨session.settings, state⟩)
  | .error error state => (.error error, ⟨session.settings, state⟩)

/-- What a list of rules gives, called in turn, each with the session after it. -/
def calls (session : Session) : List Rule → List (Except SyntaxError Parsed × Session)
  | [] => []
  | rule :: rules =>
      let outcome := session.call rule
      outcome :: outcome.2.calls rules

end Session

/-- What a rule gives at the first of some tokens. -/
def Rule.parse (rule : Rule) (settings : Settings) (tokens : List Token) :
    Except SyntaxError Tree :=
  ((Session.ofTokens settings tokens).call rule).1.map Parsed.toTree

/-- The tree of a program, or its first syntax error. -/
def parseProgram (settings : Settings) (tokens : List Token) : Except SyntaxError Tree :=
  Rule.program.parse settings tokens

end BlockLang
