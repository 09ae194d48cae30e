import BlockLang.Proofs.Independence

/-!
# Errors at the end of the input

What holds of all errors of a rule is closed under sequences and choices, so it is shown step by
step. Arithmetic and conditions open a level only at a parenthesis. So where they fail at the end of
the input a token is lacking, and the same is true of declarations and assignments.
-/

namespace BlockLang

/-- An error of tokens that end too early. -/
def SyntaxError.Incomplete (error : SyntaxError) : Prop :=
  error.kind = .endOfInput ∨ error.kind = .unterminatedBlock

namespace Grammar

variable {α β : Type} {settings : Settings} {levels : Nat} {rule : RuleM α} {rest : α → RuleM β}
  {start : State}

/-! ## The errors of a rule -/

/-- All errors that a rule gives at a state have a property. -/
def Raises (rule : RuleM α) (start : State) (holds : SyntaxError → Prop) : Prop :=
  ∀ error finish, rule.run start = .error error finish → holds error

namespace Raises

variable {holds : SyntaxError → Prop}

theorem mono {holds' : SyntaxError → Prop} (raises : Raises rule start holds)
    (of : ∀ error, holds error → holds' error) : Raises rule start holds' :=
  fun error finish run => of error (raises error finish run)

theorem pure (value : α) : Raises (Pure.pure value) start holds := by
  intro error finish run
  cases run

/-- An error of a sequence is one of its first step or one of its second behind the first. -/
theorem bind (head : Raises rule start holds)
    (tail : ∀ value middle, rule.run start = .ok value middle → Raises (rest value) middle holds) :
    Raises (rule >>= rest) start holds := by
  intro error finish run
  rcases run_bind_error run with failed | ⟨value, middle, passed, failed⟩
  · exact head error finish failed
  · exact tail value middle passed error finish failed

/-- A rule that decides by the front token fails with the error of its decision. -/
theorem of_decides {step : Option Token → Step α} (decides : Decides rule step)
    (stop : ∀ kind cause, step start.cursor.peek = .stop kind cause →
      holds (errorAt start.cursor kind cause)) :
    Raises rule start holds := by
  intro error finish run
  obtain ⟨kind, cause, decision, rfl, -⟩ := decides.of_error run
  exact stop kind cause decision

theorem check {lexeme : Token} {rest : Bool → RuleM β}
    (raises : Raises (rest (start.cursor.check lexeme)) start holds) :
    Raises (Grammar.check lexeme >>= rest) start holds := raises

theorem peek {rest : Option Token → RuleM β} {front : Option Token}
    (same : start.cursor.peek = front) (raises : Raises (rest front) start holds) :
    Raises (Grammar.peek >>= rest) start holds := by
  subst same
  exact raises

theorem remaining {rest : Nat → RuleM β}
    (raises : Raises (rest start.cursor.remaining) start holds) :
    Raises (Grammar.remaining >>= rest) start holds := raises

theorem acceptOperator (admits : Operator → Bool) :
    Raises (Grammar.acceptOperator admits) start holds := by
  refine of_decides (acceptOperator_decides admits) fun kind cause decision => ?_
  split at decision <;> cases decision

theorem accept (lexeme : Token) : Raises (Grammar.accept lexeme) start holds := by
  refine of_decides (accept_decides lexeme) fun kind cause decision => ?_
  split at decision <;> cases decision

/-- A step behind which a token is required. -/
theorem enclosed {f : α → β} {lexeme : Token} {expectation : Expectation}
    (inner : Raises rule start holds)
    (closes : ∀ later, Raises (require lexeme expectation) later holds) :
    Raises (do
      let value ← rule
      require lexeme expectation
      return f value) start holds :=
  .bind inner fun value middle _ => .bind (closes middle) fun _ _ _ => .pure (f value)

/-- The errors of a chain are those of its operands. -/
theorem chain {admits : Operator → Bool} {operand : RuleM Tree}
    (operands : ∀ start, Raises operand start holds) (start : State) :
    Raises (Grammar.chain admits operand) start holds := by
  have further (bound : Nat) (left : Tree) (start : State) :
      Raises (chainFrom admits operand bound left) start holds := by
    induction bound generalizing left start with
    | zero => exact .pure left
    | succ bound ih =>
        refine .bind (.acceptOperator admits) fun found middle _ => ?_
        cases found with
        | none => exact .pure left
        | some operator => exact .bind (operands middle) fun right later _ => ih _ later
  exact .bind (operands start) fun left middle _ => .remaining (further _ left middle)

/-- An error of a choice is one of its alternatives, also where the farther of two is reported. -/
theorem groupOrComparison {group comparison : RuleM Tree} (grouped : Raises group start holds)
    (compared : ∀ start, Raises comparison start holds) :
    Raises (Grammar.groupOrComparison group comparison) start holds := by
  intro error finish run
  rw [run_groupOrComparison] at run
  cases first : group.run start with
  | ok tree middle =>
      rw [first] at run
      cases run
  | error refused middle =>
      rw [first] at run
      dsimp only at run
      by_cases deep : refused.kind = .nestingTooDeep
      · rw [if_pos deep] at run
        cases run
        exact grouped error finish first
      · rw [if_neg deep, run_orFarther] at run
        cases second : comparison.run (middle.back start.cursor) with
        | ok tree later =>
            rw [second] at run
            cases run
        | error refused' later =>
            rw [second] at run
            cases run
            rw [farther]
            split
            · exact compared _ refused' finish second
            · exact grouped refused middle first

end Raises

/-! ## Rules that lack a token at the end -/

/-- Where a rule fails at the end of the input, a token is lacking there. -/
abbrev Lacks (rule : RuleM α) (start : State) : Prop :=
  Raises rule start fun error => error.found = none → error.Incomplete

namespace Lacks

/-- Only what a rule decides at the end matters. -/
theorem of_decides {step : Option Token → Step α} (decides : Decides rule step)
    (ended : ∀ kind cause, step none = .stop kind cause →
      kind = .endOfInput ∨ kind = .unterminatedBlock) : Lacks rule start := by
  refine Raises.of_decides decides fun kind cause decision missing => ?_
  have front : start.cursor.peek = none := missing
  rw [front] at decision
  exact ended kind cause decision

/-- A rule that looks at a token refuses that token. -/
theorem of_front {step : Option Token → Step α} (decides : Decides rule step) {token : Token}
    (front : start.cursor.peek = some token) : Lacks rule start := by
  refine Raises.of_decides decides fun kind cause _ missing => ?_
  exact absurd (front.symm.trans missing) (Option.some_ne_none token)

theorem refuse (kind : ErrorKind) (expectation : Expectation) :
    Lacks (Grammar.refuse kind expectation : RuleM α) start :=
  of_decides (refuse_decides kind expectation) fun _ _ decision => by
    cases decision
    exact .inl rfl

theorem unterminated (expectation : Expectation) :
    Lacks (Grammar.unterminated expectation : RuleM α) start :=
  of_decides (fail_decides .unterminatedBlock (.expected expectation)) fun _ _ decision => by
    cases decision
    exact .inr rfl

/-- A rule that takes one token only and is incomplete without it. -/
theorem of_required {rule : RuleM Unit} {lexeme : Token} {kind : Option Token → ErrorKind}
    {cause : ErrorCause} (decides : Requires rule lexeme kind cause)
    (incomplete : kind none = .endOfInput ∨ kind none = .unterminatedBlock) : Lacks rule start := by
  refine of_decides decides fun _ _ decision => ?_
  rw [if_neg nofun] at decision
  cases decision
  exact incomplete

theorem require (lexeme : Token) (expectation : Expectation) :
    Lacks (Grammar.require lexeme expectation) start :=
  of_required (require_decides lexeme expectation) (.inl rfl)

theorem brace (lexeme : Token) (expectation : Expectation) :
    Lacks (Grammar.brace lexeme expectation) start :=
  of_required (brace_decides lexeme expectation) (.inr rfl)

theorem requireEnd (expectation : Expectation) :
    Lacks (Grammar.requireEnd expectation) start := by
  refine of_decides (requireEnd_decides expectation) fun _ _ decision => ?_
  cases decision

theorem name (kind : ErrorKind) (expectation : Expectation) :
    Lacks (Grammar.name settings kind expectation) start := by
  refine of_decides (name_decides settings kind expectation) fun _ _ decision => ?_
  cases decision
  exact .inl rfl

theorem operand : Lacks (Grammar.operand settings) start := by
  refine of_decides (operand_decides settings) fun _ _ decision => ?_
  cases decision
  exact .inl rfl

/-- A sequence whose first step requires a token that does not come. -/
theorem before {rule : RuleM Unit} {rest : Unit → RuleM β} {lexeme : Token}
    {kind : Option Token → ErrorKind} {cause : ErrorCause}
    (decides : Requires rule lexeme kind cause) (lacks : Lacks rule start)
    (other : start.cursor.peek ≠ some lexeme) : Lacks (rule >>= rest) start :=
  .bind lacks fun _ _ passed => absurd (decides.peek_of_ok passed).1 other

end Lacks

section Groups

variable {group : RuleM Tree}
  (groups : ∀ start : State, start.cursor.peek = some "(" → Lacks group start)

include groups

theorem lacks_factorOver (start : State) : Lacks (factorOver settings group) start := by
  refine .check ?_
  split
  next opens => exact groups start ((Cursor.check_iff _ _).mp opens)
  next => exact Lacks.operand

theorem lacks_expressionOver (start : State) : Lacks (expressionOver settings group) start :=
  .chain (Raises.chain (lacks_factorOver groups)) start

end Groups

theorem lacks_arithmeticGroup (settings : Settings) (levels : Nat) (start : State)
    (opens : start.cursor.peek = some "(") : Lacks (arithmeticGroup settings levels) start := by
  induction levels generalizing start with
  | zero => exact Lacks.of_front (fail_decides _ _) opens
  | succ levels ih =>
      exact .bind (Lacks.of_front advance_decides opens) fun _ middle _ =>
        .enclosed (lacks_expressionOver ih middle) fun _ => Lacks.require ")" .closeOperand

theorem lacks_expression (settings : Settings) (levels : Nat) (start : State) :
    Lacks (expression settings levels) start :=
  lacks_expressionOver (lacks_arithmeticGroup settings levels) start

theorem lacks_comparison (settings : Settings) (levels : Nat) (start : State) :
    Lacks (comparison settings levels) start := by
  refine .bind (lacks_expression settings levels start) fun left middle _ => ?_
  refine .bind (.acceptOperator Operator.isRelational) fun found later _ => ?_
  cases found with
  | none => exact Lacks.refuse .missingRelation .relation
  | some operator =>
      exact .bind (lacks_expression settings levels later) fun right _ _ => .pure _

theorem lacks_conditionOver {group : RuleM Tree}
    (groups : ∀ start : State, start.cursor.peek = some "(" → Lacks group start) (start : State) :
    Lacks (conditionOver settings levels group) start := by
  refine .chain (.chain fun start => .check ?_) start
  split
  next opens =>
      exact .groupOrComparison (groups start ((Cursor.check_iff _ _).mp opens))
        (lacks_comparison settings levels)
  next => exact lacks_comparison settings levels start

theorem lacks_conditionGroup (settings : Settings) (levels : Nat) (start : State)
    (opens : start.cursor.peek = some "(") : Lacks (conditionGroup settings levels) start := by
  induction levels generalizing start with
  | zero => exact Lacks.of_front (fail_decides _ _) opens
  | succ levels ih =>
      exact .bind (Lacks.require "(" .openGroup) fun _ middle _ =>
        .enclosed (lacks_conditionOver ih middle) fun _ => Lacks.require ")" .closeGroup

theorem lacks_condition (settings : Settings) (levels : Nat) (start : State) :
    Lacks (condition settings levels) start :=
  lacks_conditionOver (lacks_conditionGroup settings levels) start

theorem lacks_declaration (settings : Settings) (start : State) :
    Lacks (declaration settings) start := by
  have further (bound : Nat) (start : State) : Lacks (namesFrom settings bound) start := by
    induction bound generalizing start with
    | zero => exact Lacks.refuse .invalidIdentifier .identifier
    | succ bound ih =>
        refine .bind (Lacks.name .invalidIdentifier .identifier) fun first middle _ => ?_
        refine .bind (.accept ",") fun accepted later _ => ?_
        split
        next => exact .bind (ih later) fun _ _ _ => .pure _
        next => exact .pure _
  refine .bind (Lacks.require settings.keyword (.word settings.keyword)) fun _ middle _ => ?_
  exact .remaining (.bind (further _ middle) fun _ _ _ => .pure _)

theorem lacks_assignment (settings : Settings) (levels : Nat) (start : State) :
    Lacks (assignment settings levels) start :=
  .bind (Lacks.name .invalidTarget .target) fun _ _ _ =>
    .bind (Lacks.require Token.assign .assignment) fun _ middle _ =>
      .bind (lacks_expression settings levels middle) fun _ _ _ => .pure _

end Grammar

end BlockLang
