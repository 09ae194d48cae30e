import BlockLang.Grammar.Call
import BlockLang.Proofs.Reprinting

/-!
# What is read is well formed

A tree can be built in shapes that no program has. Under every keyword, also one that is not fit for
use, every call gives only trees of its own shape: arithmetic over numbers in range and names,
conditions over arithmetic, or statements over both. A derivation stands behind whatever is read, so
this is said of derivations once and holds of the calls because they are sound.
-/

namespace BlockLang

namespace Tree

variable {keyword : Token} {tree : Tree}

/-- A condition is a comparison or joins truth values. -/
theorem isBoolean_of_isCondition (shape : tree.isCondition keyword = true) :
    tree.isBoolean = true := by
  cases tree with
  | binary operator left right =>
      simp only [isCondition, Bool.or_eq_true, Bool.and_eq_true] at shape
      change (operator.isRelational || operator.isConnective) = true
      rcases shape with ⟨⟨relational, -⟩, -⟩ | ⟨⟨connective, -⟩, -⟩
      · rw [relational, Bool.true_or]
      · rw [connective, Bool.or_true]
  | _ => cases shape

/-- What stands for a number gives no truth value. -/
theorem isBoolean_of_isArithmetic (shape : tree.isArithmetic keyword = true) :
    tree.isBoolean = false := by
  cases tree with
  | binary operator left right =>
      simp only [isArithmetic, Bool.and_eq_true] at shape
      have arithmetic := shape.1.1
      cases operator <;> first | rfl | cases arithmetic
  | _ => rfl

end Tree

namespace Grammar

/-- What a call gives is well formed: arithmetic, a condition, statements, or a program, in which
every name is one under the keyword. -/
def Call.WellFormed (keyword : Token) : (call : Call) → call.Value → Prop
  | .expression | .term | .factor => fun tree =>
      tree.isArithmetic keyword = true ∧ tree.isBoolean = false
  | .condition | .conjunction | .atom | .group | .comparison | .head _ => fun tree =>
      tree.isCondition keyword = true ∧ tree.isBoolean = true
  | .statement | .standalone | .conditional | .loop | .declaration | .assignment => fun tree =>
      tree.isStatement keyword = true
  | .statements | .block => fun body => Tree.areStatements keyword body = true
  | .program => fun tree => tree.isProgram keyword = true

section Derived

variable {keyword : Token} {levels : Nat} {tokens : List Token}

theorem arithmetic_of_derives {phrase : Phrase} {tree : Tree}
    (derives : Derives keyword levels (.phrase phrase) tokens tree)
    (kind : phrase.isArithmetic = true) :
    tree.isArithmetic keyword = true ∧ tree.isBoolean = false := by
  obtain ⟨derivation, -, rfl, -⟩ := derives
  have shape := (derivation.fits : Fits keyword phrase _ _).kind
  rw [kind] at shape
  exact ⟨shape, Tree.isBoolean_of_isArithmetic shape⟩

theorem condition_of_derives {phrase : Phrase} {tree : Tree}
    (derives : Derives keyword levels (.phrase phrase) tokens tree)
    (kind : phrase.isArithmetic = false) :
    tree.isCondition keyword = true ∧ tree.isBoolean = true := by
  obtain ⟨derivation, -, rfl, -⟩ := derives
  have shape := (derivation.fits : Fits keyword phrase _ _).kind
  rw [kind] at shape
  exact ⟨shape, Tree.isBoolean_of_isCondition shape⟩

theorem isStatement_of_derives {tree : Tree}
    (derives : Derives keyword levels .statement tokens tree) :
    tree.isStatement keyword = true := by
  obtain ⟨derivation, -, rfl, -⟩ := derives
  exact derivation.fits.1

theorem areStatements_of_derives {body : List Tree}
    (derives : Derives keyword levels .statements tokens body) :
    Tree.areStatements keyword body = true := by
  obtain ⟨derivation, -, rfl, -⟩ := derives
  exact derivation.fits.1

theorem areStatements_of_derives_block {body : List Tree}
    (derives : Derives keyword levels .block tokens body) :
    Tree.areStatements keyword body = true := by
  obtain ⟨derivation, -, rfl, -⟩ := derives
  exact derivation.fits.1

end Derived

section Calls

variable {settings : Settings} {levels : Nat} {start finish : State}

/-- A rule that conforms gives only what is derived. -/
theorem Conforms.of_run {α : Type} {keyword : Token} {rule : RuleM α}
    {derives : List Token → α → Prop} {begins : List Token → Prop} {holds : α → Prop} {value : α}
    (conforms : Conforms keyword rule start derives begins)
    (run : rule.run start = .ok value finish) (all : ∀ tokens, derives tokens value → holds value) :
    holds value := by
  obtain ⟨tokens, -, derived⟩ := conforms.ok run
  exact all tokens derived

/-- Every call gives something well formed, whatever the keyword is, however many levels are left,
and wherever the cursor stands. -/
theorem Call.wellFormed_of_run (call : Call) {value : call.Value}
    (run : (call.rule settings levels).run start = .ok value finish) :
    call.WellFormed settings.keyword value := by
  have factors := factor_sound settings levels
  have terms : Sound settings levels (.chain .product) := chain_sound factors
  have atoms := atom_sound_of_group (conditionGroup_sound settings levels)
  have conjunctions : Sound settings levels (.chain .conjunction) := chain_sound atoms
  obtain ⟨statements, blocks⟩ := statement_block_sound settings levels
  cases call with
  | factor => exact (factors start).of_run run fun _ derives => arithmetic_of_derives derives rfl
  | term => exact (terms start).of_run run fun _ derives => arithmetic_of_derives derives rfl
  | expression =>
      exact (expression_sound settings levels start).of_run run fun _ derives =>
        arithmetic_of_derives derives rfl
  | atom => exact (atoms start).of_run run fun _ derives => condition_of_derives derives rfl
  | conjunction =>
      exact (conjunctions start).of_run run fun _ derives => condition_of_derives derives rfl
  | condition =>
      exact (condition_sound settings levels start).of_run run fun _ derives =>
        condition_of_derives derives rfl
  | group =>
      exact (conditionGroup_sound settings levels start).of_run run fun _ derives =>
        condition_of_derives derives rfl
  | comparison =>
      exact (comparison_sound settings levels start).of_run run fun _ derives =>
        condition_of_derives derives rfl
  | head word =>
      refine (headCondition_sound settings levels word start).of_run run ?_
      rintro tokens ⟨derivation, -, same, fits⟩
      exact condition_of_derives ⟨derivation, rfl, same, fits⟩ rfl
  | declaration =>
      have sound : Conforms settings.keyword (Grammar.declaration settings) start
          (Derives settings.keyword (levels + 1) .statement) (Begins settings.keyword .statement) :=
        declaration_sound settings start
      exact sound.of_run run fun _ => isStatement_of_derives
  | assignment =>
      exact (assignment_sound settings levels start).of_run run fun _ => isStatement_of_derives
  | conditional =>
      exact (conditional_sound blocks start).of_run run fun _ => isStatement_of_derives
  | loop => exact (loop_sound blocks start).of_run run fun _ => isStatement_of_derives
  | statement => exact (statements start).of_run run fun _ => isStatement_of_derives
  | standalone =>
      obtain ⟨tree, middle, runStatement, runEnd⟩ := run_bind_ok run
      obtain ⟨_, _, -, runEnd⟩ := run_bind_ok runEnd
      obtain ⟨_, _, -, runEnd⟩ := run_bind_ok runEnd
      cases runEnd
      exact (statements start).of_run runStatement fun _ => isStatement_of_derives
  | statements =>
      exact (Conforms.remaining (statementsFrom_sound statements _ start)).of_run run fun _ =>
        areStatements_of_derives
  | block => exact (blocks start).of_run run fun _ => areStatements_of_derives_block
  | program =>
      refine (program_sound settings levels start).of_run run ?_
      rintro tokens ⟨derivation, rfl, rfl, fits⟩
      exact areStatements_of_derives_block ⟨derivation, rfl, rfl, fits⟩

end Calls

end Grammar

open Grammar

/-- Whatever a call gives is well formed under the keyword of its settings, with any number of
levels left and from any state; and so is what a session gives for a rule, in whatever state the
calls before it have left the session. -/
theorem wellFormed_of_call (settings : Settings) :
    (∀ (call : Call) (levels : Nat) (start finish : State) (value : call.Value),
      (call.rule settings levels).run start = .ok value finish →
      call.WellFormed settings.keyword value) ∧
    ∀ (rule : Rule) (state : State) (parsed : Parsed),
      (Session.call ⟨settings, state⟩ rule).1 = .ok parsed →
      ∃ value, parsed = rule.parsed value ∧ rule.call.WellFormed settings.keyword value := by
  refine ⟨fun call levels start finish value run => call.wellFormed_of_run run,
    fun rule state parsed given => ?_⟩
  unfold Session.call at given
  rw [rule.run_eq, map_eq_pure_bind] at given
  cases run : (rule.call.rule settings settings.maxDepth >>= fun value =>
      pure (rule.parsed value)).run state with
  | error error finish =>
      rw [run] at given
      cases given
  | ok parsed' finish =>
      rw [run] at given
      cases given
      obtain ⟨value, middle, runCall, runEnd⟩ := run_bind_ok run
      cases runEnd
      exact ⟨value, rfl, rule.call.wellFormed_of_run runCall⟩

/-- The group is given up behind the operand, and the condition ends before the assignment token,
which is the keyword here. -/
theorem wellFormed_of_call_operand :
    ∃ start finish : State, ∃ tree : Tree,
      start.cursor.rest =
        ["(", "a", "+", "1", ")", "*", "2", "<", "b", "&&", "c", "==", "0", "=", "d"] ∧
      (Call.condition.rule ⟨"=", 1⟩ 1).run start = .ok tree finish ∧
      finish.cursor.rest = ["=", "d"] ∧ Call.condition.WellFormed "=" tree := by
  have read : ∃ finish : State, ∃ tree : Tree, (Call.condition.rule ⟨"=", 1⟩ 1).run
      ⟨.ofList ["(", "a", "+", "1", ")", "*", "2", "<", "b", "&&", "c", "==", "0", "=", "d"], #[]⟩ =
        .ok tree finish ∧ finish.cursor.rest = ["=", "d"] :=
    ⟨_, _, rfl, rfl⟩
  obtain ⟨finish, tree, run, behind⟩ := read
  exact ⟨_, finish, tree, rfl, run, behind,
    (wellFormed_of_call ⟨"=", 1⟩).1 .condition 1 _ finish tree run⟩

end BlockLang
