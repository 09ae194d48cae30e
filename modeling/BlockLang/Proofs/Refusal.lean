import BlockLang.Proofs.Lacking
import BlockLang.Proofs.Viability

/-!
# Why a token is refused

Every error of the grammar says why it was raised, and rightly so: the token found there is not what
was expected, or is a literal out of range, or too many levels nest. Its kind follows from what was
expected and from whether a token was found at all. This is shown of the steps and is closed under
sequences and choices, so it does not matter how long an error is kept and which of two is reported.
-/

namespace BlockLang

namespace Expectation

/-- The kind of an error where the token found, or the end, is not what was expected. -/
def kind (found : Option Token) : Expectation → ErrorKind
  | .openBlock | .closeBlock => .unterminatedBlock
  | .separator => if found.isSome then .missingSeparator else .unterminatedBlock
  | .identifier => Grammar.refusalKind .invalidIdentifier found
  | .target => Grammar.refusalKind .invalidTarget found
  | .relation => Grammar.refusalKind .missingRelation found
  | _ => Grammar.refusalKind .unexpectedToken found

/-- What is expected inside a program, relations apart: a word is one of the language, and the end
of the input is not expected there. -/
def IsInner (keyword : Token) : Expectation → Prop
  | .word token => token = keyword ∨ ∃ word : Keyword, token = word.text
  | .relation | .programEnd | .statementEnd | .described _ => False
  | _ => True

/-- The end of the input is expected behind a program and behind a statement by itself. -/
def IsEnd (expectation : Expectation) : Prop :=
  expectation = .programEnd ∨ expectation = .statementEnd

end Expectation

/-- An error is justified when the token found, or the end, is a reason for it. -/
inductive SyntaxError.Justified (keyword : Token) (admits : Expectation → Prop) :
    SyntaxError → Prop where
  | unfit {expectation : Expectation} {position : Nat} {found : Option Token}
      (admitted : admits expectation)
      (other : ∀ token, found = some token → ¬ expectation.Fits keyword token) :
      Justified keyword admits ⟨expectation.kind found, .expected expectation, position, found⟩
  | relation {position : Nat} {found : Option Token}
      (other : ∀ operator : Operator, operator.isRelational = true ∨ operator.isArithmetic = true →
        found ≠ some operator.text) :
      Justified keyword admits
        ⟨Expectation.kind found .relation, .expected .relation, position, found⟩
  | integer {token : Token} {position : Nat} (digits : token.isInteger = true)
      (beyond : largestInteger < token.integerValue) :
      Justified keyword admits ⟨.unexpectedToken, .integerOutOfRange token, position, some token⟩
  | float {token : Token} {position : Nat} (digits : token.isFloat = true)
      (infinite : token.floatValue.isFinite = false) :
      Justified keyword admits ⟨.unexpectedToken, .floatOutOfRange token, position, some token⟩
  | nesting {limit position : Nat} {found : Option Token} :
      Justified keyword admits ⟨.nestingTooDeep, .nestingExceeds limit, position, found⟩

theorem SyntaxError.Justified.mono {keyword : Token} {admits admits' : Expectation → Prop}
    {error : SyntaxError} (justified : error.Justified keyword admits)
    (of : ∀ expectation, admits expectation → admits' expectation) :
    error.Justified keyword admits' := by
  cases justified with
  | unfit admitted other => exact .unfit (of _ admitted) other
  | relation other => exact .relation other
  | integer digits beyond => exact .integer digits beyond
  | float digits infinite => exact .float digits infinite
  | nesting => exact .nesting

theorem SyntaxError.Justified.admits_of_cause {keyword : Token} {admits : Expectation → Prop}
    {error : SyntaxError} (justified : error.Justified keyword admits) {expectation : Expectation}
    (cause : error.cause = .expected expectation) :
    admits expectation ∨ expectation = .relation := by
  cases justified <;> cases cause
  next admitted other => exact .inl admitted
  next other => exact .inr rfl

namespace Grammar

variable {α β : Type} {settings : Settings} {levels : Nat} {start : State}

/-- All errors of a rule are justified by what is expected inside a program. -/
abbrev Justifies (settings : Settings) (rule : RuleM α) (start : State) : Prop :=
  Raises rule start (SyntaxError.Justified settings.keyword (Expectation.IsInner settings.keyword))

/-! ## Steps -/

/-- An error at the cursor is justified when the front token is not what was expected. -/
theorem justified_errorAt {admits : Expectation → Prop} {cursor : Cursor} {kind : ErrorKind}
    {expectation : Expectation} {keyword : Token} (admitted : admits expectation)
    (same : kind = expectation.kind cursor.peek)
    (other : ∀ token, cursor.peek = some token → ¬ expectation.Fits keyword token) :
    (errorAt cursor kind (.expected expectation)).Justified keyword admits := by
  rw [errorAt, same]
  exact .unfit admitted other

namespace Justifies

/-- A rule that takes one token only refuses those that are not the expected one. -/
theorem of_required {rule : RuleM Unit} {lexeme : Token} {kind : Option Token → ErrorKind}
    {expectation : Expectation} (decides : Requires rule lexeme kind (.expected expectation))
    (inner : expectation.IsInner settings.keyword)
    (same : ∀ front, kind front = expectation.kind front)
    (fits : ∀ token, expectation.Fits settings.keyword token → token = lexeme) :
    Justifies settings rule start := by
  refine .of_decides decides fun _ _ decision => ?_
  split at decision
  next => cases decision
  next different =>
    cases decision
    refine justified_errorAt inner (same _) fun token found fit => ?_
    exact different (found.trans (congrArg some (fits token fit)))

theorem require (lexeme : Token) (expectation : Expectation)
    (inner : expectation.IsInner settings.keyword)
    (same : ∀ front, refusalKind .unexpectedToken front = expectation.kind front)
    (fits : ∀ token, expectation.Fits settings.keyword token → token = lexeme) :
    Justifies settings (Grammar.require lexeme expectation) start :=
  of_required (require_decides lexeme expectation) inner same fits

theorem brace (lexeme : Token) (expectation : Expectation)
    (inner : expectation.IsInner settings.keyword)
    (same : ∀ front, .unterminatedBlock = expectation.kind front)
    (fits : ∀ token, expectation.Fits settings.keyword token → token = lexeme) :
    Justifies settings (Grammar.brace lexeme expectation) start :=
  of_required (brace_decides lexeme expectation) inner same fits

theorem name (kind : ErrorKind) (expectation : Expectation)
    (inner : expectation.IsInner settings.keyword)
    (same : ∀ front, refusalKind kind front = expectation.kind front)
    (fits : ∀ token, expectation.Fits settings.keyword token →
      token.isName settings.keyword = true) :
    Justifies settings (Grammar.name settings kind expectation) start := by
  refine .of_decides (name_decides settings kind expectation) fun _ _ decision => ?_
  split at decision
  next => cases decision
  next absent =>
    cases decision
    refine justified_errorAt inner (same _) fun token found fit => ?_
    rw [found, Option.filter, fits token fit] at absent
    cases absent

end Justifies

theorem tooDeep_justifies (settings : Settings) (start : State) :
    Justifies settings (tooDeep settings : RuleM α) start := by
  refine .of_decides (fail_decides .nestingTooDeep _) fun _ _ decision => ?_
  cases decision
  exact .nesting

/-! ## Arithmetic -/

theorem operand_justifies (closed : start.cursor.peek ≠ some "(") :
    Justifies settings (operand settings) start := by
  refine .of_decides (operand_decides settings) fun kind cause decision => ?_
  cases front : start.cursor.peek with
  | none =>
      rw [front] at decision
      cases decision
      refine justified_errorAt trivial (by rw [front]; rfl) fun token found => ?_
      rw [front] at found
      cases found
  | some token =>
      rw [front] at decision closed
      dsimp only at decision
      cases read : Tree.ofOperand token settings.keyword with
      | ok tree =>
          rw [read] at decision
          cases decision
      | error cause' =>
          rw [read] at decision
          cases decision
          rcases Tree.cause_of_ofOperand read with
            ⟨rfl, digits, beyond⟩ | ⟨rfl, digits, infinite⟩ | rfl
          · rw [errorAt, front]
            exact .integer digits beyond
          · rw [errorAt, front]
            exact .float digits infinite
          · refine justified_errorAt trivial (by rw [front]; rfl) fun token' found => ?_
            rw [front] at found
            cases found
            rintro (rfl | ⟨tree, given⟩)
            · exact closed rfl
            · rw [read] at given
              cases given

section Groups

variable {group : RuleM Tree}
  (groups : ∀ start : State, start.cursor.peek = some "(" → Justifies settings group start)

include groups

theorem factorOver_justifies (start : State) :
    Justifies settings (factorOver settings group) start := by
  refine .check ?_
  split
  next opens => exact groups start ((Cursor.check_iff _ _).mp opens)
  next closed =>
      exact operand_justifies fun opens => closed ((Cursor.check_iff _ _).mpr opens)

theorem expressionOver_justifies (start : State) :
    Justifies settings (expressionOver settings group) start :=
  .chain (Raises.chain (factorOver_justifies groups)) start

end Groups

theorem arithmeticGroup_justifies (settings : Settings) (levels : Nat) (start : State)
    (opens : start.cursor.peek = some "(") :
    Justifies settings (arithmeticGroup settings levels) start := by
  induction levels generalizing start with
  | zero => exact tooDeep_justifies settings start
  | succ levels ih =>
      refine .bind (.of_decides advance_decides nofun) fun _ middle _ => ?_
      exact .enclosed (expressionOver_justifies ih middle) fun _ =>
        Justifies.require ")" .closeOperand trivial (fun _ => rfl) fun _ fits => fits

theorem expression_justifies (settings : Settings) (levels : Nat) (start : State) :
    Justifies settings (expression settings levels) start :=
  expressionOver_justifies (arithmeticGroup_justifies settings levels) start

/-! ## Relations -/

/-- Wherever a rule succeeds it leaves a token, or the end, with a property. -/
def Leaves (rule : RuleM α) (holds : Option Token → Prop) : Prop :=
  ∀ start value finish, rule.run start = .ok value finish → holds finish.cursor.peek

/-- A chain leaves what its operands leave, and no operator of its own. -/
theorem chain_leaves {admits : Operator → Bool} {operand : RuleM Tree}
    {holds : Option Token → Prop} (tracks : Local operand) (leaves : Leaves operand holds) :
    Leaves (chain admits operand) fun front => holds front ∧ admitted admits front = none := by
  have further (left : Tree) (middle finish : State) (value : Tree)
      (before : holds middle.cursor.peek)
      (run : (chainRest admits operand left).run middle = .ok value finish) :
      holds finish.cursor.peek ∧ admitted admits finish.cursor.peek = none := by
    induction middle using fewer_tokens generalizing left with
    | step middle ih =>
        cases found : admitted admits middle.cursor.peek with
        | none =>
            rw [run_chainRest_of_none tracks found] at run
            cases run
            exact ⟨before, found⟩
        | some operator =>
            rw [run_chainRest_of_admitted tracks found] at run
            obtain ⟨right, later, one, rest⟩ := run_bind_ok run
            have shorter := remaining_next_lt (peek_of_admitted found).1
            have kept := tracks.remaining_le_of_ok one
            have fewer := Nat.lt_of_le_of_lt kept shorter
            exact ih later fewer _ (leaves _ _ _ one) rest
  intro start value finish run
  rw [chain_eq] at run
  obtain ⟨left, middle, one, rest⟩ := run_bind_ok run
  exact further left middle finish value (leaves _ _ _ one) rest

/-- Behind an expression stands none of the operators that it could go on with. -/
theorem expression_leaves (settings : Settings) (levels : Nat) :
    Leaves (expression settings levels) fun front =>
      ∀ operator : Operator, operator.isArithmetic = true → front ≠ some operator.text := by
  have group := arithmeticGroup_local settings levels
  have factors : Leaves (factor settings levels) fun _ => True := fun _ _ _ _ => trivial
  have terms : Leaves (term settings levels) _ := chain_leaves (factorOver_local group) factors
  intro start tree finish run
  obtain ⟨⟨-, product⟩, sum⟩ := chain_leaves (termOver_local group) terms _ _ _ run
  intro operator arithmetic front
  rw [front] at product sum
  rw [Operator.isArithmetic, Bool.or_eq_true] at arithmetic
  rcases arithmetic with additive | multiplicative
  · rw [admitted_text additive] at sum
    cases sum
  · rw [admitted_text multiplicative] at product
    cases product

theorem comparison_justifies (settings : Settings) (levels : Nat) (start : State) :
    Justifies settings (comparison settings levels) start := by
  refine .bind (expression_justifies settings levels start) fun left middle passed => ?_
  refine .bind (.acceptOperator Operator.isRelational) fun found later accepted => ?_
  cases found with
  | some operator =>
      exact .bind (expression_justifies settings levels later) fun right _ _ => .pure _
  | none =>
      have ended := expression_leaves settings levels _ _ _ passed
      rcases (acceptOperator_decides Operator.isRelational).of_ok accepted with
        ⟨decision, same⟩ | ⟨decision, -⟩
      · refine .of_decides (refuse_decides .missingRelation .relation) fun _ _ refusal => ?_
        cases refusal
        refine .relation fun operator either front => ?_
        rw [same] at front
        rcases either with relational | arithmetic
        · rw [front, admitted_text relational] at decision
          cases decision
        · exact ended operator arithmetic front
      · split at decision <;> cases decision

/-! ## Conditions -/

section Atoms

variable {group : RuleM Tree} (groups : ∀ start, Justifies settings group start)

include groups

theorem atomOver_justifies (start : State) :
    Justifies settings (atomOver settings levels group) start := by
  refine .check ?_
  split
  next => exact .groupOrComparison (groups start) (comparison_justifies settings levels)
  next => exact comparison_justifies settings levels start

theorem conditionOver_justifies (start : State) :
    Justifies settings (conditionOver settings levels group) start :=
  .chain (Raises.chain (atomOver_justifies groups)) start

end Atoms

theorem conditionGroup_justifies (settings : Settings) (levels : Nat) (start : State) :
    Justifies settings (conditionGroup settings levels) start := by
  induction levels generalizing start with
  | zero => exact tooDeep_justifies settings start
  | succ levels ih =>
      refine .bind (Justifies.require "(" .openGroup trivial (fun _ => rfl) fun _ fits => fits)
        fun _ middle _ => ?_
      exact .enclosed (conditionOver_justifies ih middle) fun _ =>
        Justifies.require ")" .closeGroup trivial (fun _ => rfl) fun _ fits => fits

theorem condition_justifies (settings : Settings) (levels : Nat) (start : State) :
    Justifies settings (condition settings levels) start :=
  conditionOver_justifies (conditionGroup_justifies settings levels) start

/-! ## Statements -/

theorem names_justifies (settings : Settings) (start : State) :
    Justifies settings (names settings) start := by
  induction start using fewer_tokens with
  | step start ih =>
      rw [names_unfold]
      refine .bind (Justifies.name .invalidIdentifier .identifier trivial (fun _ => rfl)
        fun _ fits => fits) fun first middle named => ?_
      refine .bind (.accept ",") fun accepted later passed => ?_
      have shorter := remaining_lt_of_name named
      have tracks : Local (accept ",") := accept_tracks ","
      have kept := tracks.remaining_le_of_ok passed
      split
      next => exact .bind (ih later (by omega)) fun _ _ _ => .pure _
      next => exact .pure _

theorem declaration_justifies (settings : Settings) (start : State) :
    Justifies settings (declaration settings) start := by
  rw [declaration_eq, map_eq_pure_bind]
  refine .bind (Justifies.require settings.keyword (.word settings.keyword) (Or.inl rfl)
    (fun _ => rfl) fun _ fits => fits) fun _ middle _ => ?_
  exact .bind (names_justifies settings middle) fun _ _ _ => .pure _

theorem assignment_justifies (settings : Settings) (levels : Nat) (start : State) :
    Justifies settings (assignment settings levels) start := by
  refine .bind (Justifies.name .invalidTarget .target trivial (fun _ => rfl) fun _ fits => fits)
    fun _ middle _ => ?_
  refine .bind (Justifies.require Token.assign .assignment trivial (fun _ => rfl)
    fun _ fits => fits) fun _ later _ => ?_
  exact .bind (expression_justifies settings levels later) fun _ _ _ => .pure _

theorem headCondition_justifies (settings : Settings) (levels : Nat) (word : Keyword)
    (start : State) : Justifies settings (headCondition settings levels word) start := by
  refine .bind (Justifies.require word.text (.word word.text) (Or.inr ⟨word, rfl⟩) (fun _ => rfl)
    fun _ fits => fits) fun _ middle _ => ?_
  refine .bind (Justifies.require "(" (.openCondition word) trivial (fun _ => rfl)
    fun _ fits => fits) fun _ later _ => ?_
  exact .enclosed (condition_justifies settings levels later) fun _ =>
    Justifies.require ")" (.closeCondition word) trivial (fun _ => rfl) fun _ fits => fits

section Bodies

variable {block : RuleM (List Tree)} (blocks : ∀ start, Justifies settings block start)

include blocks

theorem conditionalOver_justifies (start : State) :
    Justifies settings (conditionalOver settings levels block) start := by
  refine .bind (headCondition_justifies settings levels .ifWord start) fun test middle _ => ?_
  refine .bind (blocks middle) fun body later _ => .bind (.accept _) fun accepted last _ => ?_
  split
  next => exact .bind (blocks last) fun _ _ _ => .pure _
  next => exact .pure _

theorem loopOver_justifies (start : State) :
    Justifies settings (loopOver settings levels block) start :=
  .bind (headCondition_justifies settings levels .whileWord start) fun _ middle _ =>
    .bind (blocks middle) fun _ _ _ => .pure _

end Bodies

/-- A list of statements that ends too early is unterminated. -/
theorem unterminated_justifies {expectation : Expectation}
    (inner : expectation.IsInner settings.keyword) (ended : start.cursor.peek = none)
    (same : .unterminatedBlock = expectation.kind none) :
    Justifies settings (unterminated expectation : RuleM α) start := by
  refine .of_decides (fail_decides .unterminatedBlock _) fun _ _ decision => ?_
  cases decision
  refine justified_errorAt inner (ended ▸ same) fun token found => ?_
  rw [ended] at found
  cases found

/-- Behind a statement a token that is no separator is refused. -/
theorem missingSeparator_justifies {token : Token} (front : start.cursor.peek = some token)
    (other : token ≠ ";") :
    Justifies settings (refuse .missingSeparator .separator : RuleM α) start := by
  refine .of_decides (refuse_decides .missingSeparator .separator) fun _ _ decision => ?_
  cases decision
  refine justified_errorAt trivial (by rw [front]; rfl) fun token' found fit => ?_
  rw [front] at found
  cases found
  exact other fit

/-- The list looks at the next token before each statement and behind it. -/
theorem statementsRound_justifies {rule : RuleM Tree} (tracks : Local rule)
    (one : ∀ start, Justifies settings rule start) {further : Unit → RuleM (List Tree)}
    (others : ∀ later : State, later.cursor.remaining < start.cursor.remaining →
      Justifies settings (further ()) later) :
    Justifies settings (statementsRound rule further ()) start := by
  cases front : start.cursor.peek with
  | none => exact .peek front (unterminated_justifies trivial front rfl)
  | some token =>
      refine .peek front ?_
      dsimp only
      split
      next => exact .pure []
      next =>
          refine .bind (one start) fun first middle passed => ?_
          cases separator : middle.cursor.peek with
          | none => exact .peek separator (unterminated_justifies trivial separator rfl)
          | some token' =>
              refine .peek separator ?_
              dsimp only
              split
              next =>
                  refine .bind (.of_decides advance_decides nofun) fun _ later moved => ?_
                  cases moved
                  have kept := tracks.remaining_le_of_ok passed
                  have shorter := remaining_next_lt separator
                  rw [← advanced_cursor] at shorter
                  exact .bind (others middle.advanced (by omega)) fun _ _ _ => .pure _
              next other => exact missingSeparator_justifies separator other

theorem statementsOver_justifies {rule : RuleM Tree} (tracks : Local rule)
    (one : ∀ start, Justifies settings rule start) (start : State) :
    Justifies settings (statementsOver rule) start := by
  induction start using fewer_tokens with
  | step start ih =>
      rw [statementsOver_unfold tracks]
      exact statementsRound_justifies tracks one ih

theorem block_justifies_succ
    (statements : ∀ start, Justifies settings (statement settings levels) start) (start : State) :
    Justifies settings (block settings (levels + 1)) start := by
  have tracks := (statement_block_local settings levels).1
  rw [block_succ]
  refine .bind (Justifies.brace "\x7b" .openBlock trivial (fun _ => rfl) fun _ fits => fits)
    fun _ middle _ => ?_
  refine .bind (statementsOver_justifies tracks statements middle) fun _ later _ => ?_
  exact .bind (Justifies.brace "\x7d" .closeBlock trivial (fun _ => rfl) fun _ fits => fits)
    fun _ _ _ => .pure _

theorem statement_justifies_succ
    (blocks : ∀ start, Justifies settings (block settings levels) start) (start : State) :
    Justifies settings (statement settings (levels + 1)) start := by
  rw [statement_succ]
  cases front : start.cursor.peek with
  | none =>
      refine .peek front (.of_decides (refuse_decides .unexpectedToken .statement) ?_)
      intro _ _ decision
      cases decision
      exact justified_errorAt trivial rfl fun token _ fit => fit
  | some first =>
      refine .peek front (.bind (.of_decides (dispatch_decides first) nofun) fun _ middle _ => ?_)
      rw [statementOf]
      split
      next => exact conditionalOver_justifies blocks middle
      next =>
      split
      next => exact loopOver_justifies blocks middle
      next =>
      split
      next => exact .bind (blocks middle) fun _ _ _ => .pure _
      next =>
      split
      next => exact declaration_justifies settings middle
      next => exact assignment_justifies settings levels middle

theorem statement_block_justifies (settings : Settings) (levels : Nat) :
    (∀ start, Justifies settings (statement settings levels) start) ∧
      ∀ start, Justifies settings (block settings levels) start := by
  induction levels with
  | zero =>
      rw [statement, block]
      exact ⟨tooDeep_justifies settings, tooDeep_justifies settings⟩
  | succ levels ih => exact ⟨statement_justifies_succ ih.2, block_justifies_succ ih.1⟩

/-! ## Calls -/

/-- A rule that requires the end refuses any token. -/
theorem requireEnd_justifies {expectation : Expectation} (ends : expectation.IsEnd) :
    Raises (requireEnd expectation) start
      (SyntaxError.Justified settings.keyword (· = expectation)) := by
  refine .of_decides (requireEnd_decides expectation) fun _ _ decision => ?_
  split at decision
  next => cases decision
  next present =>
    cases decision
    obtain ⟨token, front⟩ := Option.ne_none_iff_exists'.mp present
    refine justified_errorAt rfl ?_ ?_
    · rw [front]
      rcases ends with rfl | rfl <;> rfl
    · rintro token' - fit
      rcases ends with rfl | rfl <;> exact fit

/-- Behind the block of a program the end of the input is expected. -/
theorem program_justifies (settings : Settings) (levels : Nat) (start : State) :
    Raises (program settings levels) start
      (SyntaxError.Justified settings.keyword fun expectation =>
        expectation.IsInner settings.keyword ∨ expectation = .programEnd) := by
  rw [program_eq]
  refine .bind (.of_decides beginning_decides nofun) fun _ middle _ => ?_
  refine .bind (.mono ((statement_block_justifies settings levels).2 middle) fun _ justified =>
    justified.mono fun _ => .inl) fun _ later _ => ?_
  exact .bind (.mono (requireEnd_justifies (.inl rfl)) fun _ justified =>
    justified.mono fun _ => .inr) fun _ _ _ => .pure _

theorem standalone_justifies (settings : Settings) (levels : Nat) (start : State) :
    Raises (standalone settings levels) start
      (SyntaxError.Justified settings.keyword fun expectation =>
        expectation.IsInner settings.keyword ∨ expectation = .statementEnd) := by
  refine .bind (.mono ((statement_block_justifies settings levels).1 start) fun _ justified =>
    justified.mono fun _ => .inl) fun _ middle _ => ?_
  refine .bind (.accept ";") fun _ later _ => ?_
  exact .bind (.mono (requireEnd_justifies (.inr rfl)) fun _ justified =>
    justified.mono fun _ => .inr) fun _ _ _ => .pure _

/-- All errors of a call are justified. -/
theorem Call.justifies (call : Call) (settings : Settings) (levels : Nat) (start : State) :
    Raises (call.rule settings levels) start
      (SyntaxError.Justified settings.keyword fun expectation =>
        expectation.IsInner settings.keyword ∨ expectation.IsEnd) := by
  have inside {α : Type} {rule : RuleM α} (justifies : Justifies settings rule start) :
      Raises rule start (SyntaxError.Justified settings.keyword fun expectation =>
        expectation.IsInner settings.keyword ∨ expectation.IsEnd) :=
    .mono justifies fun _ justified => justified.mono fun _ => .inl
  have operands := arithmeticGroup_justifies settings levels
  have groups := conditionGroup_justifies settings levels
  have tracks := (statement_block_local settings levels).1
  obtain ⟨statements, blocks⟩ := statement_block_justifies settings levels
  cases call with
  | program =>
      exact .mono (program_justifies settings levels start) fun _ justified =>
        justified.mono fun _ => Or.imp_right .inl
  | standalone =>
      exact .mono (standalone_justifies settings levels start) fun _ justified =>
        justified.mono fun _ => Or.imp_right .inr
  | statement => exact inside (statements start)
  | statements => exact inside (statementsOver_justifies tracks statements start)
  | block => exact inside (blocks start)
  | conditional => exact inside (conditionalOver_justifies blocks start)
  | loop => exact inside (loopOver_justifies blocks start)
  | declaration => exact inside (declaration_justifies settings start)
  | assignment => exact inside (assignment_justifies settings levels start)
  | head word => exact inside (headCondition_justifies settings levels word start)
  | expression => exact inside (expression_justifies settings levels start)
  | term => exact inside (Raises.chain (factorOver_justifies operands) start)
  | factor => exact inside (factorOver_justifies operands start)
  | condition => exact inside (condition_justifies settings levels start)
  | conjunction => exact inside (.chain (atomOver_justifies groups) start)
  | atom => exact inside (atomOver_justifies groups start)
  | group => exact inside (groups start)
  | comparison => exact inside (comparison_justifies settings levels start)

end Grammar

end BlockLang
