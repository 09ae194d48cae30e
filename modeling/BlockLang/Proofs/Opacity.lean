import BlockLang.Proofs.History
import BlockLang.Proofs.Renaming

/-!
# Names are opaque

Every step of the grammar does over renamed tokens what it does over the others, and this is closed
under sequences, loops and the choice between two readings of a parenthesis. No identifier means
anything but what the keyword and the fixed words make of it.
-/

namespace BlockLang

open Grammar

namespace Grammar

variable {α β γ δ : Type} {rename : Renaming} {f : α → β} {g : γ → δ} {rule : RuleM α}
  {rule' : RuleM β} {settings : Settings}

/-- The second rule does over the images of all tokens what the first does over the tokens. -/
def Renames (rename : Renaming) (f : α → β) (rule : RuleM α) (rule' : RuleM β) : Prop :=
  ∀ start : State, rule'.run (rename.state start) = rename.result f (rule.run start)

namespace Renames

/-! ## Sequences and choices -/

theorem pure (value : α) : Renames rename f (Pure.pure value) (Pure.pure (f value)) :=
  fun _ => rfl

theorem bind {rest : α → RuleM γ} {rest' : β → RuleM δ} (head : Renames rename f rule rule')
    (tail : ∀ value, Renames rename g (rest value) (rest' (f value))) :
    Renames rename g (rule >>= rest) (rule' >>= rest') := by
  intro start
  rw [EStateM.run_bind, EStateM.run_bind, head start]
  cases rule.run start with
  | ok value middle => exact tail value middle
  | error error middle => rfl

theorem map {h : α → γ} {h' : β → δ} (renames : Renames rename f rule rule')
    (same : ∀ value, h' (f value) = g (h value)) :
    Renames rename g (h <$> rule) (h' <$> rule') := by
  rw [map_eq_pure_bind, map_eq_pure_bind]
  refine renames.bind fun value => ?_
  rw [same]
  exact .pure (h value)

theorem ite {condition condition' : Prop} [Decidable condition] [Decidable condition']
    {other : RuleM α} {other' : RuleM β} (same : condition' ↔ condition)
    (holds : Renames rename f rule rule') (fails : Renames rename f other other') :
    Renames rename f (if condition then rule else other)
      (if condition' then rule' else other') := by
  by_cases truth : condition
  · rw [if_pos truth, if_pos (same.mpr truth)]
    exact holds
  · rw [if_neg truth, if_neg (mt same.mp truth)]
    exact fails

/-! ## Steps -/

theorem peek : Renames rename (Option.map rename.image) peek peek := by
  intro start
  rw [run_peek, run_peek]
  exact congrArg (EStateM.Result.ok · _) (rename.peek_cursor start.cursor)

theorem position : Renames rename id position position := fun _ => rfl

theorem remaining : Renames rename id remaining remaining := by
  intro start
  rw [run_remaining, run_remaining]
  exact congrArg (EStateM.Result.ok · _) (rename.remaining_cursor start.cursor)

theorem record (event : Event) :
    Renames rename id (record event) (record (rename.event event)) := by
  intro start
  simp [Renaming.result, Renaming.state]

theorem advance : Renames rename id advance advance := by
  intro start
  rw [run_advance, run_advance, rename.advanced_state]
  rfl

theorem check (lexeme : Token) :
    Renames rename id (check lexeme) (check (rename.image lexeme)) := by
  intro start
  rw [run_check, run_check]
  exact congrArg (EStateM.Result.ok · _) (rename.check_cursor start.cursor lexeme)

theorem accept (lexeme : Token) :
    Renames rename id (accept lexeme) (accept (rename.image lexeme)) := by
  intro start
  have checked : (rename.state start).cursor.check (rename.image lexeme) =
      start.cursor.check lexeme := rename.check_cursor start.cursor lexeme
  rw [run_accept, run_accept, checked]
  split
  next => simp [Renaming.result, Renaming.state]
  next => rfl

theorem fail (kind : ErrorKind) (cause : ErrorCause) :
    Renames rename f (fail kind cause) (fail kind (rename.cause cause)) := by
  intro start
  rw [run_fail, run_fail]
  exact congrArg (EStateM.Result.error · _) (rename.errorAt_cursor start.cursor kind cause)

theorem refuse (kind : ErrorKind) (expectation : Expectation) :
    Renames rename f (refuse kind expectation)
      (refuse kind (rename.expectation expectation)) := by
  intro start
  have present : (rename.state start).cursor.peek.isSome = start.cursor.peek.isSome := by
    simp [Renaming.state]
  rw [run_refuse, run_refuse, present]
  exact congrArg (EStateM.Result.error · _)
    (rename.errorAt_cursor start.cursor _ (.expected expectation))

theorem tooDeep : Renames rename f (tooDeep settings) (tooDeep (rename.settings settings)) :=
  .fail .nestingTooDeep (.nestingExceeds settings.maxDepth)

theorem acceptOperator (admits : Operator → Bool) :
    Renames rename id (acceptOperator admits) (acceptOperator admits) := by
  intro start
  have operator : (rename.state start).cursor.peek.bind Operator.ofText? =
      start.cursor.peek.bind Operator.ofText? := by
    change (rename.cursor start.cursor).peek.bind _ = _
    rw [rename.peek_cursor]
    cases start.cursor.peek with
    | none => rfl
    | some token => exact rename.operator_image token
  rw [run_acceptOperator, run_acceptOperator, operator]
  split
  next => simp [Renaming.result, Renaming.state]
  next => rfl

theorem require (lexeme : Token) (expectation : Expectation) :
    Renames rename id (require lexeme expectation)
      (require (rename.image lexeme) (rename.expectation expectation)) :=
  (Renames.accept lexeme).bind fun _ => .ite .rfl (.pure ()) (.refuse _ _)

theorem requireEnd (expectation : Expectation) :
    Renames rename id (requireEnd expectation) (requireEnd (rename.expectation expectation)) :=
  Renames.peek.bind fun front => .ite (by rw [Option.isSome_map]) (.refuse _ _) (.pure ())

/-- A fixed token is its own image, so it is accepted where it was. -/
theorem accept_plain {lexeme : Token} (plain : lexeme.isIdentifier = false) :
    Renames rename id (Grammar.accept lexeme) (Grammar.accept lexeme) := by
  have renames : Renames rename id _ (Grammar.accept (rename.image lexeme)) := accept lexeme
  rwa [rename.plain lexeme plain] at renames

theorem require_plain {lexeme : Token} (plain : lexeme.isIdentifier = false)
    (expectation : Expectation) :
    Renames rename id (Grammar.require lexeme expectation)
      (Grammar.require lexeme (rename.expectation expectation)) := by
  have renames : Renames rename id _ (Grammar.require (rename.image lexeme) _) :=
    require lexeme expectation
  rwa [rename.plain lexeme plain] at renames

theorem name (kind : ErrorKind) (expectation : Expectation) :
    Renames rename rename.image (name settings kind expectation)
      (name (rename.settings settings) kind (rename.expectation expectation)) := by
  refine Renames.peek.bind fun front => ?_
  cases front with
  | none => exact .refuse kind expectation
  | some token =>
      refine .ite ?_ (Renames.advance.bind fun _ => .pure token) (.refuse kind expectation)
      exact Bool.eq_iff_iff.mp (rename.isName_image token settings.keyword)

theorem operand :
    Renames rename rename.tree (operand settings) (operand (rename.settings settings)) := by
  refine Renames.peek.bind fun front => ?_
  cases front with
  | none => exact .refuse .unexpectedToken .expression
  | some token =>
      have read := rename.ofOperand_image token settings.keyword
      cases given : Tree.ofOperand token settings.keyword with
      | ok tree =>
          have read' : Tree.ofOperand (rename.image token) (rename.image settings.keyword) =
              .ok (rename.tree tree) := by rw [read, given]; rfl
          simp only [Option.map_some, Renaming.settings, given, read']
          exact Renames.advance.bind fun _ => .pure tree
      | error cause =>
          have read' : Tree.ofOperand (rename.image token) (rename.image settings.keyword) =
              .error (rename.cause cause) := by rw [read, given]; rfl
          simp only [Option.map_some, Renaming.settings, given, read']
          exact .fail .unexpectedToken cause

/-! ## Chains and conditions -/

section Chains

variable {admits : Operator → Bool} {part part' group group' : RuleM Tree} {levels : Nat}

theorem chainFrom (parts : Renames rename rename.tree part part') (bound : Nat) (left : Tree) :
    Renames rename rename.tree (chainFrom admits part bound left)
      (chainFrom admits part' bound (rename.tree left)) := by
  induction bound generalizing left with
  | zero => exact .pure left
  | succ bound ih =>
      refine (Renames.acceptOperator admits).bind fun found => ?_
      cases found with
      | none => exact .pure left
      | some operator => exact parts.bind fun right => ih (.binary operator left right)

theorem chain (parts : Renames rename rename.tree part part') :
    Renames rename rename.tree (chain admits part) (chain admits part') :=
  parts.bind fun left => Renames.remaining.bind fun bound => parts.chainFrom bound left

/-- What is read behind a fixed token and closed by another. -/
theorem enclosed {opening opening' : RuleM Unit} {lexeme : Token} {expectation : Expectation}
    (opens : Renames rename id opening opening') (inner : Renames rename rename.tree part part')
    (plain : lexeme.isIdentifier = false) :
    Renames rename rename.tree
      (do
        opening
        let tree ← part
        Grammar.require lexeme expectation
        return tree)
      (do
        opening'
        let tree ← part'
        Grammar.require lexeme (rename.expectation expectation)
        return tree) :=
  opens.bind fun _ => inner.bind fun tree =>
    (require_plain plain expectation).bind fun _ => .pure tree

theorem factorOver (groups : Renames rename rename.tree group group') :
    Renames rename rename.tree (factorOver settings group)
      (factorOver (rename.settings settings) group') := by
  have checks : Renames rename id (Grammar.check "(") (Grammar.check (rename.image "(")) :=
    .check "("
  rw [rename.plain "(" (by decide)] at checks
  exact checks.bind fun _ => .ite .rfl groups .operand

theorem expressionOver (groups : Renames rename rename.tree group group') :
    Renames rename rename.tree (expressionOver settings group)
      (expressionOver (rename.settings settings) group') :=
  (chain (factorOver groups)).chain

theorem arithmeticGroup (settings : Settings) (levels : Nat) :
    Renames rename rename.tree (arithmeticGroup settings levels)
      (arithmeticGroup (rename.settings settings) levels) := by
  induction levels with
  | zero => exact .tooDeep
  | succ levels ih => exact .enclosed .advance (.expressionOver ih) (by decide)

theorem expression :
    Renames rename rename.tree (expression settings levels)
      (expression (rename.settings settings) levels) :=
  .expressionOver (arithmeticGroup settings levels)

theorem comparison :
    Renames rename rename.tree (comparison settings levels)
      (comparison (rename.settings settings) levels) := by
  refine Renames.expression.bind fun left => ?_
  refine (Renames.acceptOperator Operator.isRelational).bind fun found => ?_
  cases found with
  | none => exact .refuse .missingRelation .relation
  | some operator => exact Renames.expression.bind fun right => .pure (Tree.binary operator left right)

/-- The second reading of a parenthesis begins at the same place, and the same error is the
farther. -/
theorem groupOrComparison (groups : Renames rename rename.tree group group')
    (comparisons : Renames rename rename.tree part part') :
    Renames rename rename.tree (groupOrComparison group part) (groupOrComparison group' part') := by
  intro start
  rw [run_groupOrComparison, run_groupOrComparison, groups start]
  cases group.run start with
  | ok tree finish => rfl
  | error first stop =>
      change (if first.kind = .nestingTooDeep then _ else _) = _
      dsimp only
      by_cases deep : first.kind = .nestingTooDeep
      · rw [if_pos deep, if_pos deep]
        rfl
      · have again : (rename.state stop).back (rename.state start).cursor =
            rename.state (stop.back start.cursor) := rename.back_state stop start.cursor
        rw [if_neg deep, if_neg deep, run_orFarther, run_orFarther, again, comparisons]
        cases part.run (stop.back start.cursor) with
        | ok tree finish => rfl
        | error second finish =>
            exact congrArg (EStateM.Result.error · _) (rename.farther_error first second)

theorem atomOver (groups : Renames rename rename.tree group group') :
    Renames rename rename.tree (atomOver settings levels group)
      (atomOver (rename.settings settings) levels group') := by
  have checks : Renames rename id (Grammar.check "(") (Grammar.check (rename.image "(")) :=
    .check "("
  rw [rename.plain "(" (by decide)] at checks
  exact checks.bind fun _ => .ite .rfl (groups.groupOrComparison .comparison) .comparison

theorem conditionOver (groups : Renames rename rename.tree group group') :
    Renames rename rename.tree (conditionOver settings levels group)
      (conditionOver (rename.settings settings) levels group') :=
  (chain (atomOver groups)).chain

theorem conditionGroup (settings : Settings) (levels : Nat) :
    Renames rename rename.tree (conditionGroup settings levels)
      (conditionGroup (rename.settings settings) levels) := by
  induction levels with
  | zero => exact .tooDeep
  | succ levels ih =>
      exact .enclosed (.require_plain (by decide) .openGroup) (.conditionOver ih) (by decide)

theorem condition :
    Renames rename rename.tree (condition settings levels)
      (condition (rename.settings settings) levels) :=
  .conditionOver (conditionGroup settings levels)

end Chains

/-! ## Statements -/

theorem namesFrom (settings : Settings) (bound : Nat) :
    Renames rename (List.map rename.image) (namesFrom settings bound)
      (namesFrom (rename.settings settings) bound) := by
  induction bound with
  | zero => exact .refuse .invalidIdentifier .identifier
  | succ bound ih =>
      refine (Renames.name .invalidIdentifier .identifier).bind fun first => ?_
      exact (accept_plain (by decide)).bind fun _ => .ite .rfl
        (ih.bind fun others => .pure (first :: others)) (.pure [first])

theorem declaration (settings : Settings) :
    Renames rename rename.tree (declaration settings) (declaration (rename.settings settings)) :=
  (Renames.require settings.keyword (.word settings.keyword)).bind fun _ =>
    Renames.remaining.bind fun bound =>
      (namesFrom settings bound).bind fun names => .pure (Tree.declare names)

theorem assignment {levels : Nat} :
    Renames rename rename.tree (assignment settings levels)
      (assignment (rename.settings settings) levels) :=
  (Renames.name .invalidTarget .target).bind fun target =>
    (require_plain (by decide) .assignment).bind fun _ =>
      Renames.expression.bind fun value => .pure (Tree.assign target value)

theorem headCondition {levels : Nat} (word : Keyword) :
    Renames rename rename.tree (headCondition settings levels word)
      (headCondition (rename.settings settings) levels word) := by
  have heads : Renames rename id _ (Grammar.require (rename.image word.text)
      (.word (rename.image word.text))) := .require word.text (.word word.text)
  rw [rename.word] at heads
  exact heads.bind fun _ => .enclosed (.require_plain (by decide) (.openCondition word)) .condition
    (by decide)

section Bodies

variable {body body' : RuleM (List Tree)} {one one' : RuleM Tree} {levels : Nat}

theorem conditionalOver (bodies : Renames rename rename.trees body body') :
    Renames rename rename.tree (conditionalOver settings levels body)
      (conditionalOver (rename.settings settings) levels body') := by
  have accepts : Renames rename id _ (Grammar.accept (rename.image Keyword.elseWord.text)) :=
    .accept Keyword.elseWord.text
  rw [rename.word] at accepts
  exact (headCondition .ifWord).bind fun test => bodies.bind fun body => accepts.bind fun _ =>
    .ite .rfl (bodies.bind fun alternative => .pure (Tree.ifThenElse test body alternative))
      (.pure (Tree.ifThen test body))

theorem loopOver (bodies : Renames rename rename.trees body body') :
    Renames rename rename.tree (loopOver settings levels body)
      (loopOver (rename.settings settings) levels body') :=
  (headCondition .whileWord).bind fun test => bodies.bind fun body => .pure (Tree.loop test body)

/-- A token is the brace that closes a list, or a separator, exactly when its image is. -/
theorem statementsFrom (ones : Renames rename rename.tree one one') (bound : Nat) :
    Renames rename rename.trees (statementsFrom one bound) (statementsFrom one' bound) := by
  induction bound with
  | zero => exact .fail .unterminatedBlock (.expected .closeBlock)
  | succ bound ih =>
      refine Renames.peek.bind fun front => ?_
      cases front with
      | none => exact .fail .unterminatedBlock (.expected .closeBlock)
      | some token =>
          refine .ite (rename.image_plain (by decide)) (.pure []) (ones.bind fun first => ?_)
          refine Renames.peek.bind fun front => ?_
          cases front with
          | none => exact .fail .unterminatedBlock (.expected .separator)
          | some separator =>
              exact .ite (rename.image_plain (by decide))
                (Renames.advance.bind fun _ => ih.bind fun others => .pure (first :: others))
                (.refuse .missingSeparator .separator)

theorem statementsOver (ones : Renames rename rename.tree one one') :
    Renames rename rename.trees (statementsOver one) (statementsOver one') :=
  Renames.remaining.bind fun bound => ones.statementsFrom bound

theorem brace {lexeme : Token} (plain : lexeme.isIdentifier = false) (expectation : Expectation) :
    Renames rename id (brace lexeme expectation) (brace lexeme (rename.expectation expectation)) :=
  (accept_plain plain).bind fun _ =>
    .ite .rfl (.pure ()) (.fail .unterminatedBlock (.expected expectation))

theorem block_succ (statements : Renames rename rename.tree (statement settings levels)
      (statement (rename.settings settings) levels)) :
    Renames rename rename.trees (block settings (levels + 1))
      (block (rename.settings settings) (levels + 1)) := by
  rw [Grammar.block_succ, Grammar.block_succ]
  exact (brace (by decide) .openBlock).bind fun _ => (statementsOver statements).bind fun body =>
    (brace (by decide) .closeBlock).bind fun _ => .pure body

/-- A statement is told by its first token as the image is told by the image of that token, also
when the declaration keyword is no identifier. -/
theorem statement_succ (blocks : Renames rename rename.trees (block settings levels)
      (block (rename.settings settings) levels)) :
    Renames rename rename.tree (statement settings (levels + 1))
      (statement (rename.settings settings) (levels + 1)) := by
  rw [Grammar.statement_succ, Grammar.statement_succ]
  refine Renames.peek.bind fun front => ?_
  cases front with
  | none => exact .refuse .unexpectedToken .statement
  | some first =>
      have dispatches : Renames rename id (dispatch first) (dispatch (rename.image first)) :=
        Renames.position.bind fun position => .record (.dispatched position first)
      refine dispatches.bind fun _ => ?_
      exact .ite (rename.image_word .ifWord) (conditionalOver blocks) <|
        .ite (rename.image_word .whileWord) (loopOver blocks) <|
          .ite (rename.image_plain (by decide)) (blocks.bind fun body => .pure (Tree.block body)) <|
            .ite rename.image_eq_iff (declaration settings) assignment

end Bodies

theorem statement_block (settings : Settings) (levels : Nat) :
    Renames rename rename.tree (statement settings levels)
        (statement (rename.settings settings) levels) ∧
      Renames rename rename.trees (block settings levels)
        (block (rename.settings settings) levels) := by
  induction levels with
  | zero =>
      rw [statement, statement, block, block]
      exact ⟨.tooDeep, .tooDeep⟩
  | succ levels ih => exact ⟨statement_succ ih.2, block_succ ih.1⟩

end Renames

/-! ## Calls -/

/-- Every call does over the images of all tokens what it does over the tokens. -/
theorem Call.rule_renames (call : Call) (levels : Nat) :
    Renames rename (rename.value call) (call.rule settings levels)
      (call.rule (rename.settings settings) levels) := by
  have groups : Renames rename rename.tree (conditionGroup settings levels)
      (conditionGroup (rename.settings settings) levels) := .conditionGroup settings levels
  have atoms : Renames rename rename.tree
      (atomOver settings levels (conditionGroup settings levels))
      (atomOver (rename.settings settings) levels (conditionGroup (rename.settings settings) levels)) :=
    .atomOver groups
  have factors : Renames rename rename.tree (factorOver settings (arithmeticGroup settings levels))
      (factorOver (rename.settings settings) (arithmeticGroup (rename.settings settings) levels)) :=
    .factorOver (.arithmeticGroup settings levels)
  have statements : Renames rename rename.tree (Grammar.statement settings levels)
      (Grammar.statement (rename.settings settings) levels) :=
    (Renames.statement_block settings levels).1
  have blocks : Renames rename rename.trees (Grammar.block settings levels)
      (Grammar.block (rename.settings settings) levels) :=
    (Renames.statement_block settings levels).2
  cases call with
  | program =>
      change Renames _ _ (Grammar.program settings levels) (Grammar.program _ levels)
      rw [program_eq, program_eq]
      have begins : Renames rename id beginning beginning :=
        Renames.remaining.bind fun count => .record (.begun count)
      exact begins.bind fun _ => blocks.bind fun body =>
        (Renames.requireEnd .programEnd).bind fun _ => .pure (Tree.block body)
  | standalone =>
      exact statements.bind fun tree => (Renames.accept_plain (by decide)).bind fun _ =>
        (Renames.requireEnd .statementEnd).bind fun _ => .pure tree
  | statement => exact statements
  | statements => exact statements.statementsOver
  | block => exact blocks
  | conditional => exact blocks.conditionalOver
  | loop => exact blocks.loopOver
  | declaration => exact .declaration settings
  | assignment => exact .assignment
  | head word => exact .headCondition word
  | expression => exact .expression
  | term => exact factors.chain
  | factor => exact factors
  | condition => exact .condition
  | conjunction => exact atoms.chain
  | atom => exact atoms
  | group => exact groups
  | comparison => exact .comparison

/-- What a rule gives as what was read commutes with renaming. -/
theorem parsed_value (rename : Renaming) (rule : Rule) (value : rule.call.Value) :
    rule.parsed (rename.value rule.call value) = rename.parsed (rule.parsed value) := by
  cases rule <;> rfl

end Grammar

/-- In a session over the images of all tokens, under the image of the keyword, a rule gives the
image of what it gives, and leaves the session at the image of where it leaves it. -/
theorem Session.call_renamed (rename : Renaming) (session : Session) (rule : Rule) :
    (rename.session session).call rule = rename.outcome (session.call rule) := by
  have renames : Renames rename rename.parsed (rule.run session.settings)
      (rule.run (rename.settings session.settings)) := by
    rw [rule.run_eq, rule.run_eq]
    exact (rule.call.rule_renames _).map (parsed_value rename rule)
  have given : (rule.run (rename.session session).settings).run (rename.session session).state =
      rename.result rename.parsed ((rule.run session.settings).run session.state) :=
    renames session.state
  cases run : (rule.run session.settings).run session.state with
  | ok parsed finish =>
      rw [run] at given
      rw [Session.call_of_ok run, Session.call_of_ok given]
      rfl
  | error error finish =>
      rw [run] at given
      rw [Session.call_of_error run, Session.call_of_error given]
      rfl

/-- Names are opaque: with all identifiers renamed, the declaration keyword among them if it is one,
every call from any state and every rule on any tokens gives the image of what it gives otherwise,
the renamed tree or the error at the same position with the renamed token, and leaves the cursor at
the same place. -/
theorem run_of_renamed_tokens (rename : Renaming) (settings : Settings) :
    (∀ (call : Call) (levels : Nat) (start : State),
      (call.rule (rename.settings settings) levels).run (rename.state start) =
        rename.result (rename.value call) ((call.rule settings levels).run start)) ∧
    ∀ (rule : Rule) (tokens : List Token),
      (Session.ofTokens (rename.settings settings) (tokens.map rename.image)).call rule =
        rename.outcome ((Session.ofTokens settings tokens).call rule) := by
  constructor
  · intro call levels start
    exact call.rule_renames levels start
  · intro rule tokens
    rw [rename.ofTokens_session]
    exact Session.call_renamed rename _ rule

/-- The keyword and a name change places. The group is given up under both, and the name that was
the keyword is read as a name. -/
theorem run_of_renamed_tokens_swapped :
    ((Session.ofTokens ⟨"x", 3⟩ ["if", "(", "(", "let", ")", "<", "y", ")", "\x7b", "x", "let",
      ";", "\x7d"]).call .statement).1 =
      .ok (.tree (.ifThen (.binary .less (.var "let") (.var "y")) [.declare ["let"]])) := by
  have fits : Token.Fit "let" := (Settings.fault?_eq_none_iff_fit ⟨"let", 3⟩).mp (by decide)
  have fits' : Token.Fit "x" := (Settings.fault?_eq_none_iff_fit ⟨"x", 3⟩).mp (by decide)
  have read : ((Session.ofTokens ⟨"let", 3⟩ ["if", "(", "(", "x", ")", "<", "y", ")", "\x7b",
      "let", "x", ";", "\x7d"]).call .statement).1 =
        .ok (.tree (.ifThen (.binary .less (.var "x") (.var "y")) [.declare ["x"]])) := rfl
  have renamed := congrArg Prod.fst <|
    (run_of_renamed_tokens (.swap "let" "x" fits fits') ⟨"let", 3⟩).2 .statement
      ["if", "(", "(", "x", ")", "<", "y", ")", "\x7b", "let", "x", ";", "\x7d"]
  rw [Renaming.outcome, read] at renamed
  change _ = Except.ok (Renaming.parsed _ _) at renamed
  simpa [Renaming.settings, Renaming.swap, Renaming.parsed, Renaming.tree, Renaming.trees]
    using renamed

end BlockLang
