import BlockLang.Proofs.Derivation
import BlockLang.Proofs.Independence
import BlockLang.Proofs.Shape

/-!
# Beginnings of derivations

Some tokens begin a symbol when a derivation of it goes on from them. A rule conforms to its symbol
when what it reads derives its value, and what lies before an error begins the symbol, also with a
token that the error suggests. Beginnings are closed under the productions, which complete them with
the least that is derivable; conforming rules are closed under sequencing.
-/

namespace BlockLang

/-- The tokens that an expectation names. -/
def Expectation.Fits (keyword : Token) : Expectation → Token → Prop
  | .openBlock, token => token = "\x7b"
  | .closeBlock, token => token = "\x7d"
  | .separator, token => token = ";"
  | .word lexeme, token => token = lexeme
  | .openCondition _, token | .openGroup, token => token = "("
  | .closeCondition _, token | .closeOperand, token | .closeGroup, token => token = ")"
  | .identifier, token | .target, token => token.isName keyword = true
  | .assignment, token => token = Token.assign
  | .expression, token | .operand, token =>
      token = "(" ∨ ∃ tree, Tree.ofOperand token keyword = .ok tree
  | .relation, token => ∃ operator : Operator, operator.isRelational = true ∧ token = operator.text
  | .statement, _ | .programEnd, _ | .statementEnd, _ | .described _, _ => False

/-- What may stand where an error lies as far as its cause tells: nothing, or a token that was
expected. -/
inductive ErrorCause.Suggests (keyword : Token) : ErrorCause → List Token → Prop
  | nothing (cause : ErrorCause) : Suggests keyword cause []
  | token {expectation : Expectation} {token : Token} (fits : expectation.Fits keyword token) :
      Suggests keyword (.expected expectation) [token]

namespace Grammar

variable {keyword : Token} {levels : Nat}

/-! ## Least derivations -/

namespace Derivation

def zero : Derivation keyword .factor := .integer "0" (by decide) (by decide)

/-- A factor by itself is an expression. -/
def alone (factor : Derivation keyword .factor) : Derivation keyword .sum :=
  .single .sum (.single .product factor)

def hollow : Derivation keyword .block := .braces .empty

/-- The comparison of an expression with zero. -/
def zeroTest (left : Derivation keyword .sum) : Derivation keyword .atom :=
  .comparison left .equal rfl zero.alone

def truth : Derivation keyword .condition :=
  .single .disjunction (.single .conjunction zero.alone.zeroTest)

end Derivation

/-- Some identifier is not the declaration keyword. -/
theorem exists_isName (keyword : Token) : ∃ token : Token, token.isName keyword = true := by
  by_cases taken : keyword = "x"
  · subst taken
    exact ⟨"y", by decide⟩
  · refine ⟨"x", ?_⟩
    have other : ("x" == keyword) = false := beq_eq_false_iff_ne.mpr (Ne.symm taken)
    have shape : Token.isIdentifier "x" = true := by decide
    have free : Keyword.ofText? "x" = none := by decide
    simp [Token.isName, Token.isKeyword, other, shape, free]

/-- The derivation of a token that is an operand by itself. -/
theorem exists_factor {token : Token} {tree : Tree}
    (read : Tree.ofOperand token keyword = .ok tree) :
    ∃ derivation : Derivation keyword .factor,
      derivation.tokens = [token] ∧ derivation.value = tree ∧ derivation.depth = 0 := by
  rcases Tree.ofOperand_eq_ok_iff.mp read with
    ⟨digits, inRange, rfl⟩ | ⟨digits, finite, rfl⟩ | ⟨named, rfl⟩
  · exact ⟨.integer token digits inRange, rfl, rfl, rfl⟩
  · exact ⟨.float token digits finite, rfl, rfl, rfl⟩
  · exact ⟨.reference token named, rfl, rfl, rfl⟩

/-! ## Beginnings -/

/-- Some tokens derive a value of a symbol within some levels. -/
def Derives (keyword : Token) (levels : Nat) (symbol : Symbol) (tokens : List Token)
    (value : symbol.Value) : Prop :=
  ∃ derivation : Derivation keyword symbol,
    derivation.tokens = tokens ∧ derivation.value = value ∧ derivation.depth ≤ levels

/-- Some tokens are the first of a derivation. -/
def Begins (keyword : Token) (symbol : Symbol) (tokens : List Token) : Prop :=
  ∃ derivation : Derivation keyword symbol, tokens <+: derivation.tokens

/-- What stands between other tokens begins where they do. -/
theorem prefix_between {tokens whole : List Token} (before after : List Token)
    (part : tokens <+: whole) : before ++ tokens <+: before ++ whole ++ after :=
  ((List.prefix_append_right_inj before).mpr part).trans (List.prefix_append _ _)

namespace Begins

variable {tokens : List Token}

theorem factor_of_sum (begins : Begins keyword .sum tokens) :
    Begins keyword .factor ("(" :: tokens) := by
  obtain ⟨inner, part⟩ := begins
  exact ⟨.parenthesized inner, prefix_between ["("] [")"] part⟩

theorem atom_of_condition (begins : Begins keyword .condition tokens) :
    Begins keyword .atom ("(" :: tokens) := by
  obtain ⟨inner, part⟩ := begins
  exact ⟨.group inner, prefix_between ["("] [")"] part⟩

theorem chain_of_operand {level : Level} (begins : Begins keyword (.phrase level.operand) tokens) :
    Begins keyword (.chain level) tokens := by
  obtain ⟨operand, part⟩ := begins
  exact ⟨.single level operand, part⟩

theorem chain_of_right {level : Level} (left : Derivation keyword (.chain level))
    {operator : Operator} (admits : level.admits operator = true)
    (begins : Begins keyword (.phrase level.operand) tokens) :
    Begins keyword (.chain level) (left.tokens ++ operator.text :: tokens) := by
  obtain ⟨right, part⟩ := begins
  refine ⟨.joined level left operator admits right, ?_⟩
  simpa [Derivation.tokens] using part

theorem atom_of_left (begins : Begins keyword .sum tokens) : Begins keyword .atom tokens := by
  obtain ⟨left, part⟩ := begins
  exact ⟨left.zeroTest, prefix_between [] _ part⟩

theorem atom_of_right (left : Derivation keyword .sum) {operator : Operator}
    (relational : operator.isRelational = true) (begins : Begins keyword .sum tokens) :
    Begins keyword .atom (left.tokens ++ operator.text :: tokens) := by
  obtain ⟨right, part⟩ := begins
  refine ⟨.comparison left operator relational right, ?_⟩
  simpa [Derivation.tokens] using part

theorem statement_of_block (begins : Begins keyword .block tokens) :
    Begins keyword .statement tokens := by
  obtain ⟨body, part⟩ := begins
  exact ⟨.nested body, part⟩

theorem statement_of_ifThen (condition : Derivation keyword .condition)
    (begins : Begins keyword .block tokens) :
    Begins keyword .statement
      (Keyword.ifWord.text :: "(" :: condition.tokens ++ ")" :: tokens) := by
  obtain ⟨body, part⟩ := begins
  refine ⟨.ifThen condition body, ?_⟩
  simpa [Derivation.tokens] using part

theorem statement_of_ifThenElse (condition : Derivation keyword .condition)
    (body : Derivation keyword .block) (begins : Begins keyword .block tokens) :
    Begins keyword .statement
      (Keyword.ifWord.text :: "(" :: condition.tokens ++ ")" :: body.tokens ++
        Keyword.elseWord.text :: tokens) := by
  obtain ⟨alternative, part⟩ := begins
  refine ⟨.ifThenElse condition body alternative, ?_⟩
  simpa [Derivation.tokens] using part

theorem statement_of_loop (condition : Derivation keyword .condition)
    (begins : Begins keyword .block tokens) :
    Begins keyword .statement
      (Keyword.whileWord.text :: "(" :: condition.tokens ++ ")" :: tokens) := by
  obtain ⟨body, part⟩ := begins
  refine ⟨.loop condition body, ?_⟩
  simpa [Derivation.tokens] using part

theorem statement_of_sum {target : Token} (named : target.isName keyword = true)
    (begins : Begins keyword .sum tokens) :
    Begins keyword .statement (target :: Token.assign :: tokens) := by
  obtain ⟨value, part⟩ := begins
  refine ⟨.assignment target named value, ?_⟩
  simpa [Derivation.tokens] using part

/-- A statement begins the statements of a block. -/
theorem block_of_statement (begins : Begins keyword .statement tokens) :
    Begins keyword .block ("\x7b" :: tokens) := by
  obtain ⟨first, part⟩ := begins
  refine ⟨.braces (.cons first .empty), ?_⟩
  simpa [Derivation.tokens] using part.trans (List.prefix_append _ _)

/-- What begins the statements of a block does so behind another statement. -/
theorem block_of_statements (first : Derivation keyword .statement)
    (begins : Begins keyword .block ("\x7b" :: tokens)) :
    Begins keyword .block ("\x7b" :: first.tokens ++ ";" :: tokens) := by
  obtain ⟨block, part⟩ := begins
  cases block with
  | braces others =>
      refine ⟨.braces (.cons first others), ?_⟩
      simpa [Derivation.tokens] using part

end Begins

/-! ## Conforming rules -/

/-- What a rule reads derives its value, and what lies before its error begins something. -/
structure Conforms {α : Type} (keyword : Token) (rule : RuleM α) (start : State)
    (derives : List Token → α → Prop) (begins : List Token → Prop) : Prop where
  ok : ∀ {value finish}, rule.run start = .ok value finish →
    ∃ tokens, start.cursor.Reads tokens finish.cursor ∧ derives tokens value
  error : ∀ {error finish}, rule.run start = .error error finish →
    ∃ seen, error.LiesBehind seen start.cursor ∧
      ∀ further, error.cause.Suggests keyword further → begins (seen ++ further)

namespace Conforms

variable {α β : Type} {rule : RuleM α} {start : State} {derives derives' : List Token → α → Prop}
  {begins begins' : List Token → Prop}

theorem mono (conforms : Conforms keyword rule start derives begins)
    (ok : ∀ tokens value, derives tokens value → derives' tokens value)
    (error : ∀ tokens, begins tokens → begins' tokens) :
    Conforms keyword rule start derives' begins' := by
  constructor
  · intro value finish run
    obtain ⟨tokens, reads, derived⟩ := conforms.ok run
    exact ⟨tokens, reads, ok _ _ derived⟩
  · intro reported finish run
    obtain ⟨seen, lies, begun⟩ := conforms.error run
    exact ⟨seen, lies, fun further suggests => error _ (begun further suggests)⟩

/-- What a rule begins may begin more. -/
theorem weaken (conforms : Conforms keyword rule start derives begins)
    (error : ∀ tokens, begins tokens → begins' tokens) :
    Conforms keyword rule start derives begins' :=
  conforms.mono (fun _ _ derived => derived) error

theorem pure {value : α} (derived : derives [] value) :
    Conforms keyword (Pure.pure value) start derives begins := by
  constructor
  · intro result finish run
    cases run
    exact ⟨[], .refl _, derived⟩
  · intro error finish run
    cases run

/-- A sequence conforms when its second step does behind what the first has read. -/
theorem bind {rest : α → RuleM β} {derives' : List Token → β → Prop}
    (head : Conforms keyword rule start derives begins)
    (tail : ∀ tokens value middle, start.cursor.Reads tokens middle.cursor →
      derives tokens value → Conforms keyword (rest value) middle
        (fun tokens' => derives' (tokens ++ tokens')) (fun tokens' => begins (tokens ++ tokens'))) :
    Conforms keyword (rule >>= rest) start derives' begins := by
  constructor
  · intro result finish run
    obtain ⟨value, middle, runHead, runTail⟩ := run_bind_ok run
    obtain ⟨tokens, reads, derived⟩ := head.ok runHead
    obtain ⟨tokens', reads', derived'⟩ := (tail tokens value middle reads derived).ok runTail
    exact ⟨tokens ++ tokens', reads.trans reads', derived'⟩
  · intro error finish run
    rcases run_bind_error run with runHead | ⟨value, middle, runHead, runTail⟩
    · exact head.error runHead
    · obtain ⟨tokens, reads, derived⟩ := head.ok runHead
      obtain ⟨seen, lies, begun⟩ := (tail tokens value middle reads derived).error runTail
      refine ⟨tokens ++ seen, .append reads lies, fun further suggests => ?_⟩
      rw [List.append_assoc]
      exact begun further suggests

/-- A sequence whose second step only makes a value. -/
theorem last {derives' : List Token → β → Prop}
    (head : Conforms keyword rule start derives begins) (f : α → β)
    (ok : ∀ tokens value, derives tokens value → derives' tokens (f value)) :
    Conforms keyword (rule >>= fun value => Pure.pure (f value)) start derives' begins := by
  refine head.bind fun tokens value middle _ derived => .pure ?_
  rw [List.append_nil]
  exact ok tokens value derived

/-- A rule that decides by the front token conforms when its decision does. -/
theorem of_decides {step : Option Token → Step α} (decides : Decides rule step)
    (leave : ∀ value, step start.cursor.peek = .leave value → derives [] value)
    (take : ∀ value, step start.cursor.peek = .take value →
      ∃ token, start.cursor.peek = some token ∧ derives [token] value)
    (stop : ∀ kind cause, step start.cursor.peek = .stop kind cause →
      ∀ further, cause.Suggests keyword further → begins further) :
    Conforms keyword rule start derives begins := by
  constructor
  · intro value finish run
    rcases decides.of_ok run with ⟨decision, same⟩ | ⟨decision, moved⟩
    · exact ⟨[], same ▸ .refl _, leave _ decision⟩
    · obtain ⟨token, front, derived⟩ := take _ decision
      exact ⟨[token], moved ▸ Cursor.reads_next front, derived⟩
  · intro error finish run
    obtain ⟨kind, cause, decision, rfl, -⟩ := decides.of_error run
    exact ⟨[], .errorAt _ _ _, stop kind cause decision⟩

/-! ## Steps -/

theorem peek {rest : Option Token → RuleM α}
    (conforms : Conforms keyword (rest start.cursor.peek) start derives begins) :
    Conforms keyword (Grammar.peek >>= rest) start derives begins :=
  ⟨conforms.ok, conforms.error⟩

theorem check {lexeme : Token} {rest : Bool → RuleM α}
    (conforms : Conforms keyword (rest (start.cursor.check lexeme)) start derives begins) :
    Conforms keyword (Grammar.check lexeme >>= rest) start derives begins :=
  ⟨conforms.ok, conforms.error⟩

theorem remaining {rest : Nat → RuleM α}
    (conforms : Conforms keyword (rest start.cursor.remaining) start derives begins) :
    Conforms keyword (Grammar.remaining >>= rest) start derives begins :=
  ⟨conforms.ok, conforms.error⟩

/-- A rule that reads nothing and never fails. -/
theorem of_leave {value : α} (decides : Decides rule fun _ => .leave value) :
    Conforms keyword rule start (fun tokens _ => tokens = []) begins := by
  apply of_decides decides
  · intro _ _
    rfl
  · intro _ decision
    cases decision
  · intro _ _ decision
    cases decision

/-- A rule that always fails conforms when what its cause suggests begins something. -/
theorem of_stop {kind : Option Token → ErrorKind} {cause : ErrorCause}
    (decides : Decides rule fun front => .stop (kind front) cause)
    (suggested : ∀ further, cause.Suggests keyword further → begins further) :
    Conforms keyword rule start derives begins := by
  apply of_decides decides
  · intro _ decision
    cases decision
  · intro _ decision
    cases decision
  · intro _ _ decision
    cases decision
    exact suggested

theorem tooDeep {settings : Settings} (empty : begins []) :
    Conforms keyword (Grammar.tooDeep settings : RuleM α) start derives begins := by
  apply of_stop (fail_decides .nestingTooDeep (.nestingExceeds settings.maxDepth))
  rintro further ⟨⟩
  exact empty

section Refusals

variable {expectation : Expectation}
  (suggested : ∀ further, (ErrorCause.expected expectation).Suggests keyword further →
    begins further)

include suggested

theorem refuse {kind : ErrorKind} :
    Conforms keyword (Grammar.refuse kind expectation : RuleM α) start derives begins :=
  of_stop (refuse_decides kind expectation) suggested

theorem unterminated :
    Conforms keyword (Grammar.unterminated expectation : RuleM α) start derives begins :=
  of_stop (fail_decides .unterminatedBlock (.expected expectation)) suggested

/-- A rule that takes one token only conforms when what it expects instead begins something. -/
theorem of_required {rule : RuleM Unit} {lexeme : Token} {kind : Option Token → ErrorKind}
    (decides : Requires rule lexeme kind (.expected expectation)) :
    Conforms keyword rule start (fun tokens _ => tokens = [lexeme]) begins := by
  apply of_decides decides
  · intro _ decision
    split at decision <;> cases decision
  · intro _ decision
    split at decision
    next front => exact ⟨lexeme, front, rfl⟩
    next => cases decision
  · intro _ _ decision
    split at decision
    next => cases decision
    next =>
      cases decision
      exact suggested

theorem require {lexeme : Token} :
    Conforms keyword (Grammar.require lexeme expectation) start (fun tokens _ => tokens = [lexeme])
      begins :=
  of_required suggested (require_decides lexeme expectation)

theorem brace {lexeme : Token} :
    Conforms keyword (Grammar.brace lexeme expectation) start (fun tokens _ => tokens = [lexeme])
      begins :=
  of_required suggested (brace_decides lexeme expectation)

theorem requireEnd :
    Conforms keyword (Grammar.requireEnd expectation) start (fun tokens _ => tokens = [])
      begins := by
  apply of_decides (requireEnd_decides expectation)
  · intro _ _
    rfl
  · intro _ decision
    split at decision <;> cases decision
  · intro _ _ decision
    split at decision
    next => cases decision
    next =>
      cases decision
      exact suggested

theorem name {settings : Settings} {kind : ErrorKind} :
    Conforms keyword (Grammar.name settings kind expectation) start
      (fun tokens token => token.isName settings.keyword = true ∧ tokens = [token]) begins := by
  apply of_decides (name_decides settings kind expectation)
  · intro _ decision
    split at decision <;> cases decision
  · intro _ decision
    split at decision
    next token found =>
      cases decision
      rw [Option.filter_eq_some_iff] at found
      exact ⟨_, found.1, found.2, rfl⟩
    next => cases decision
  · intro _ _ decision
    split at decision
    next => cases decision
    next =>
      cases decision
      exact suggested

end Refusals

theorem advance {token : Token} (front : start.cursor.peek = some token) :
    Conforms keyword Grammar.advance start (fun tokens _ => tokens = [token]) begins := by
  apply of_decides advance_decides
  · intro _ decision
    cases decision
  · intro _ decision
    exact ⟨token, front, rfl⟩
  · intro _ _ decision
    cases decision

theorem accept {lexeme : Token} :
    Conforms keyword (Grammar.accept lexeme) start
      (fun tokens accepted => tokens = if accepted then [lexeme] else []) begins := by
  apply of_decides (accept_decides lexeme)
  · intro _ decision
    split at decision
    next => cases decision
    next =>
      cases decision
      rfl
  · intro _ decision
    split at decision
    next front =>
      cases decision
      exact ⟨lexeme, front, rfl⟩
    next => cases decision
  · intro _ _ decision
    split at decision <;> cases decision

theorem acceptOperator {admits : Operator → Bool} :
    Conforms keyword (Grammar.acceptOperator admits) start
      (fun tokens found => (found = none ∧ tokens = []) ∨
        ∃ operator, found = some operator ∧ admits operator = true ∧ tokens = [operator.text])
      begins := by
  apply of_decides (acceptOperator_decides admits)
  · intro _ decision
    split at decision
    next => cases decision
    next =>
      cases decision
      exact .inl ⟨rfl, rfl⟩
  · intro _ decision
    split at decision
    next operator found =>
      cases decision
      obtain ⟨front, holds⟩ := peek_of_admitted found
      exact ⟨operator.text, front, .inr ⟨operator, rfl, holds, rfl⟩⟩
    next => cases decision
  · intro _ _ decision
    split at decision <;> cases decision

end Conforms

end Grammar

end BlockLang
