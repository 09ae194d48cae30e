import BlockLang.Grammar.Counter
import BlockLang.Proofs.Independence

/-!
# Open levels are closed again

A counted rule does what the rule does that is told how many levels are left, and behind it as many
levels are open as before it, whether it succeeds or fails. This holds for every call with enough
height, where the height that is enough depends on the limit alone and not on the tokens.
-/

namespace BlockLang

namespace Grammar

open CountedM (step nested)

variable {α β : Type} {settings : Settings} {depth levels : Nat}

/-- Where so many levels are open a counted rule does what a rule does, and leaves as many open. -/
def Counts (depth : Nat) (counted : CountedM α) (rule : RuleM α) : Prop :=
  ∀ state : State, counted.run ⟨state, depth⟩ = (step rule).run ⟨state, depth⟩

section Steps

variable {rule : RuleM α} {state state' : State}

theorem run_step_of_ok {value : α} (run : rule.run state = .ok value state') :
    (step rule).run ⟨state, depth⟩ = .ok value ⟨state', depth⟩ := by
  change step rule ⟨state, depth⟩ = _
  rw [step, run]

theorem run_step_of_error {error : SyntaxError} (run : rule.run state = .error error state') :
    (step rule).run ⟨state, depth⟩ = .error (.refused error) ⟨state', depth⟩ := by
  change step rule ⟨state, depth⟩ = _
  rw [step, run]

end Steps

namespace Counts

variable {counted counted' : CountedM α} {rule rule' : RuleM α}

theorem step (rule : RuleM α) : Counts depth (step rule) rule := fun _ => rfl

theorem pure (value : α) : Counts depth (Pure.pure value) (Pure.pure value) := fun _ => rfl

theorem bind {next : α → CountedM β} {rest : α → RuleM β} (head : Counts depth counted rule)
    (tail : ∀ value, Counts depth (next value) (rest value)) :
    Counts depth (counted >>= next) (rule >>= rest) := by
  intro state
  rw [EStateM.run_bind, head state]
  cases run : rule.run state with
  | ok value middle =>
      rw [run_step_of_ok run]
      change (next value).run ⟨middle, depth⟩ = _
      have whole : (rule >>= rest).run state = (rest value).run middle := run_bind_of_ok run
      rw [tail value middle]
      cases last : (rest value).run middle with
      | ok result finish => rw [run_step_of_ok last, run_step_of_ok (whole.trans last)]
      | error error finish => rw [run_step_of_error last, run_step_of_error (whole.trans last)]
  | error error middle =>
      have whole : (rule >>= rest).run state = .error error middle := run_bind_of_error run
      rw [run_step_of_error run, run_step_of_error whole]

theorem map (counts : Counts depth counted rule) (f : α → β) :
    Counts depth (f <$> counted) (f <$> rule) := by
  rw [map_eq_pure_bind, map_eq_pure_bind]
  exact counts.bind fun value => .pure (f value)

theorem ite {condition : Prop} [Decidable condition] (holds : Counts depth counted rule)
    (fails : Counts depth counted' rule') :
    Counts depth (if condition then counted else counted')
      (if condition then rule else rule') := by
  by_cases truth : condition
  · rw [if_pos truth, if_pos truth]
    exact holds
  · rw [if_neg truth, if_neg truth]
    exact fails

/-- A level that is opened is closed behind what is inside, and none is opened beyond the limit. -/
theorem nested (full : settings.maxDepth - depth = 0 → rule = tooDeep settings)
    (room : ∀ levels, settings.maxDepth - depth = levels + 1 → Counts (depth + 1) counted rule) :
    Counts depth (nested settings counted) rule := by
  intro state
  change CountedM.nested settings counted ⟨state, depth⟩ = _
  rw [CountedM.nested]
  by_cases limit : settings.maxDepth ≤ depth
  · rw [if_pos limit, full (Nat.sub_eq_zero_of_le limit)]
  · rw [if_neg limit]
    obtain ⟨levels, more⟩ : ∃ levels, settings.maxDepth - depth = levels + 1 :=
      ⟨settings.maxDepth - depth - 1, by omega⟩
    have inside := room levels more state
    dsimp only
    rw [inside]
    cases run : rule.run state with
    | ok value finish =>
        rw [run_step_of_ok run, run_step_of_ok run]
        rfl
    | error error finish =>
        rw [run_step_of_error run, run_step_of_error run]
        rfl

/-! ## Chains, lists and choices -/

variable {operand : CountedM Tree} {operand' : RuleM Tree}

theorem chainFrom (admits : Operator → Bool) (counts : Counts depth operand operand')
    (bound : Nat) (left : Tree) :
    Counts depth (CountedM.chainFrom admits operand bound left)
      (Grammar.chainFrom admits operand' bound left) := by
  induction bound generalizing left with
  | zero => exact .pure left
  | succ bound ih =>
      refine (Counts.step (acceptOperator admits)).bind fun found => ?_
      cases found with
      | none => exact .pure left
      | some operator => exact counts.bind fun right => ih (.binary operator left right)

theorem chain (admits : Operator → Bool) (counts : Counts depth operand operand') :
    Counts depth (CountedM.chain admits operand) (Grammar.chain admits operand') :=
  counts.bind fun left => (Counts.step remaining).bind fun bound =>
    counts.chainFrom admits bound left

theorem statementsFrom (counts : Counts depth operand operand') (bound : Nat) :
    Counts depth (CountedM.statementsFrom operand bound)
      (Grammar.statementsFrom operand' bound) := by
  induction bound with
  | zero => exact .step _
  | succ bound ih =>
      refine (Counts.step peek).bind fun front => ?_
      cases front with
      | none => exact .step _
      | some token =>
          refine .ite (.pure []) (counts.bind fun first => ?_)
          refine (Counts.step peek).bind fun front => ?_
          cases front with
          | none => exact .step _
          | some separator =>
              exact .ite ((Counts.step advance).bind fun _ => ih.bind fun others => .pure _)
                (.step _)

theorem groupOrComparison {group comparison : CountedM Tree} {group' comparison' : RuleM Tree}
    (first : Counts depth group group') (second : Counts depth comparison comparison') :
    Counts depth (CountedM.groupOrComparison group comparison)
      (Grammar.groupOrComparison group' comparison') := by
  intro state
  have whole := run_groupOrComparison group' comparison' state
  change CountedM.groupOrComparison group comparison ⟨state, depth⟩ = _
  rw [CountedM.groupOrComparison, first state]
  cases run : group'.run state with
  | ok tree finish =>
      rw [run] at whole
      rw [run_step_of_ok run, run_step_of_ok whole]
  | error error stop =>
      rw [run] at whole
      dsimp only at whole
      rw [run_step_of_error run]
      by_cases deep : error.kind = .nestingTooDeep
      · rw [if_pos deep] at whole
        dsimp only
        rw [if_pos deep, run_step_of_error whole]
      · rw [if_neg deep, run_orFarther] at whole
        dsimp only
        rw [if_neg deep, second (stop.back state.cursor)]
        cases again : comparison'.run (stop.back state.cursor) with
        | ok tree finish =>
            rw [again] at whole
            rw [run_step_of_ok again, run_step_of_ok whole]
        | error error' finish =>
            rw [again] at whole
            rw [run_step_of_error again, run_step_of_error whole]

end Counts

/-! ## Calls -/

namespace Call

/-- How many calls stand inside each other before a level is opened, the call itself included. -/
def rank : Call → Nat
  | .factor | .group | .statement | .block | .declaration => 1
  | .term | .statements | .program | .standalone => 2
  | .expression => 3
  | .comparison | .assignment => 4
  | .atom => 5
  | .conjunction => 6
  | .condition => 7
  | .head _ => 8
  | .conditional | .loop => 9

/-- The height that is enough for a call with so many levels left: nine calls for each of them, and
those that come before the next one is opened. -/
def height (levels : Nat) (call : Call) : Nat := call.rank + 9 * levels

theorem rank_le_nine (call : Call) : call.rank ≤ 9 := by
  cases call <;> simp [rank]

theorem rank_pos (call : Call) : 0 < call.rank := by
  cases call <;> simp [rank]

/-- Height for the calls of every rule with all levels left. -/
theorem height_le_of_nine {height : Nat} (call : Call)
    (enough : 9 * (settings.maxDepth + 1) ≤ height) : call.height settings.maxDepth ≤ height := by
  have bounded := call.rank_le_nine
  unfold Call.height
  omega

/-- What a call calls beside it needs less height. -/
theorem height_le_of_lt {call callee : Call} {height : Nat} (lower : callee.rank < call.rank)
    (enough : call.height levels ≤ height + 1) : callee.height levels ≤ height := by
  unfold Call.height at enough ⊢
  omega

/-- What is called inside a level that is opened needs less height. -/
theorem height_le_of_nested {call : Call} {height fewer : Nat} (callee : Call)
    (more : settings.maxDepth - depth = fewer + 1)
    (enough : call.height (settings.maxDepth - depth) ≤ height + 1) :
    callee.height (settings.maxDepth - (depth + 1)) ≤ height := by
  have positive := call.rank_pos
  have bounded := callee.rank_le_nine
  unfold Call.height at enough ⊢
  omega

end Call

section Calls

variable {self : (call : Call) → CountedM call.Value}

/-- Each call that stands lower counts as its rule does. -/
def CountsBelow (settings : Settings) (self : (call : Call) → CountedM call.Value)
    (depth rank : Nat) : Prop :=
  ∀ callee : Call, callee.rank < rank →
    Counts depth (self callee) (callee.rule settings (settings.maxDepth - depth))

/-- Each call inside a level that is opened counts as its rule does. -/
def CountsInside (settings : Settings) (self : (call : Call) → CountedM call.Value)
    (depth : Nat) : Prop :=
  ∀ (callee : Call) (fewer : Nat), settings.maxDepth - depth = fewer + 1 →
    Counts (depth + 1) (self callee) (callee.rule settings fewer)

/-- What is read behind a step and closed by another. -/
theorem counts_enclosed {counted : CountedM Tree} {rule : RuleM Tree} (opening closing : RuleM Unit)
    (inner : Counts depth counted rule) :
    Counts depth
      (do
        step opening
        let tree ← counted
        step closing
        return tree)
      (do
        opening
        let tree ← rule
        closing
        return tree) :=
  (Counts.step opening).bind fun _ => inner.bind fun tree =>
    (Counts.step closing).bind fun _ => .pure tree

theorem counts_factor (inside : CountsInside settings self depth) :
    Counts depth (Call.body settings self .factor)
      (Call.rule settings (settings.maxDepth - depth) .factor) := by
  refine (Counts.step (check "(")).bind fun opens => .ite (.nested ?_ ?_) (.step _)
  · intro full
    rw [full]
    rfl
  · intro fewer more
    rw [more]
    exact counts_enclosed advance (require ")" .closeOperand) (inside .expression fewer more)

theorem counts_group (inside : CountsInside settings self depth) :
    Counts depth (Call.body settings self .group)
      (Call.rule settings (settings.maxDepth - depth) .group) := by
  refine .nested ?_ ?_
  · intro full
    rw [full]
    rfl
  · intro fewer more
    rw [more]
    exact counts_enclosed (require "(" .openGroup) (require ")" .closeGroup)
      (inside .condition fewer more)

theorem counts_block (inside : CountsInside settings self depth) :
    Counts depth (Call.body settings self .block)
      (Call.rule settings (settings.maxDepth - depth) .block) := by
  refine .nested ?_ ?_
  · intro full
    rw [full]
    exact block.eq_1 settings
  · intro fewer more
    rw [more]
    change Counts _ _ (block settings (fewer + 1))
    rw [block_succ]
    exact (Counts.step (brace "\x7b" .openBlock)).bind fun _ =>
      (inside .statements fewer more).bind fun statements =>
        (Counts.step (brace "\x7d" .closeBlock)).bind fun _ => .pure statements

theorem counts_statement (inside : CountsInside settings self depth) :
    Counts depth (Call.body settings self .statement)
      (Call.rule settings (settings.maxDepth - depth) .statement) := by
  refine .nested ?_ ?_
  · intro full
    rw [full]
    exact statement.eq_1 settings
  · intro fewer more
    rw [more]
    change Counts _ _ (statement settings (fewer + 1))
    rw [statement_succ]
    refine (Counts.step peek).bind fun front => ?_
    cases front with
    | none => exact .step _
    | some first =>
        refine (Counts.step (dispatch first)).bind fun _ => ?_
        exact .ite (inside .conditional fewer more) <| .ite (inside .loop fewer more) <|
          .ite ((inside .block fewer more).bind fun body => .pure _) <|
            .ite (inside .declaration fewer more) (inside .assignment fewer more)

theorem counts_conditional (beside : CountsBelow settings self depth 9) :
    Counts depth (Call.body settings self .conditional)
      (Call.rule settings (settings.maxDepth - depth) .conditional) := by
  refine (beside (.head .ifWord) (by decide)).bind fun test =>
    (beside .block (by decide)).bind fun body =>
      (Counts.step (accept Keyword.elseWord.text)).bind fun _ => .ite ?_ (.pure _)
  exact (beside .block (by decide)).bind fun alternative => .pure _

theorem counts_comparison (beside : CountsBelow settings self depth 4) :
    Counts depth (Call.body settings self .comparison)
      (Call.rule settings (settings.maxDepth - depth) .comparison) := by
  refine (beside .expression (by decide)).bind fun left =>
    (Counts.step (acceptOperator Operator.isRelational)).bind fun found => ?_
  cases found with
  | none => exact .step _
  | some operator => exact (beside .expression (by decide)).bind fun right => .pure _

theorem counts_program (beside : CountsBelow settings self depth 2) :
    Counts depth (Call.body settings self .program)
      (Call.rule settings (settings.maxDepth - depth) .program) := by
  change Counts depth _ (program settings (settings.maxDepth - depth))
  rw [program_eq]
  exact (Counts.step beginning).bind fun _ => (beside .block (by decide)).bind fun body =>
    (Counts.step (requireEnd .programEnd)).bind fun _ => .pure _

/-- A call over others counts as its rule does when the others do: those beside it that stand lower,
and those inside a level that it opens. -/
theorem body_counts (call : Call) (beside : CountsBelow settings self depth call.rank)
    (inside : CountsInside settings self depth) :
    Counts depth (call.body settings self) (call.rule settings (settings.maxDepth - depth)) := by
  cases call with
  | program => exact counts_program beside
  | standalone =>
      exact (beside .statement (by decide)).bind fun tree =>
        (Counts.step (accept ";")).bind fun _ =>
          (Counts.step (requireEnd .statementEnd)).bind fun _ => .pure tree
  | statement => exact counts_statement inside
  | statements =>
      exact (Counts.step remaining).bind fun bound =>
        (beside .statement (by decide)).statementsFrom bound
  | block => exact counts_block inside
  | conditional => exact counts_conditional beside
  | loop =>
      exact (beside (.head .whileWord) (by decide)).bind fun test =>
        (beside .block (by decide)).bind fun body => .pure _
  | declaration => exact .step _
  | assignment =>
      exact (Counts.step (name settings .invalidTarget .target)).bind fun target =>
        (Counts.step (require Token.assign .assignment)).bind fun _ =>
          (beside .expression (by decide)).bind fun value => .pure _
  | head word =>
      exact (Counts.step (require word.text (.word word.text))).bind fun _ =>
        counts_enclosed (require "(" (.openCondition word)) (require ")" (.closeCondition word))
          (beside .condition (by decide : 7 < 8))
  | expression => exact (beside .term (by decide)).chain _
  | term => exact (beside .factor (by decide)).chain _
  | factor => exact counts_factor inside
  | condition => exact (beside .conjunction (by decide)).chain _
  | conjunction => exact (beside .atom (by decide)).chain _
  | atom =>
      exact (Counts.step (check "(")).bind fun opens =>
        .ite (.groupOrComparison (beside .group (by decide)) (beside .comparison (by decide)))
          (beside .comparison (by decide))
  | group => exact counts_group inside
  | comparison => exact counts_comparison beside

end Calls

/-- A call with enough height does what its rule does with the levels that the limit leaves, and
leaves as many levels open as it found. -/
theorem counted_counts (settings : Settings) {height : Nat} (call : Call) (depth : Nat)
    (enough : call.height (settings.maxDepth - depth) ≤ height) :
    Counts depth (call.counted settings height)
      (call.rule settings (settings.maxDepth - depth)) := by
  induction height generalizing call depth with
  | zero =>
      have positive := call.rank_pos
      unfold Call.height at enough
      omega
  | succ height ih =>
      apply body_counts
      · intro callee lower
        exact ih callee depth (Call.height_le_of_lt lower enough)
      · intro callee fewer more
        have same : settings.maxDepth - (depth + 1) = fewer := by omega
        have counts := ih callee (depth + 1) (Call.height_le_of_nested callee more enough)
        rw [same] at counts
        exact counts

end Grammar

end BlockLang
