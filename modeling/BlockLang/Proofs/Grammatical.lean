import BlockLang.Proofs.Printing
import BlockLang.Proofs.Viability

/-!
# Grammatical trees

A tree is grammatical when some program has it: its parts stand where the grammar lets them stand,
and its names and numbers can be written as tokens. The tokens of a grammatical tree are derived, as
the tree, with as many levels as nest in the printed form: an operand in a phrase is derived without
parentheses exactly when the printer writes none.
-/

namespace BlockLang

namespace Tree

/-! ## Shapes -/

variable (keyword : Token)

/-- True of the operations of arithmetic over numbers and variables that can be written as tokens:
integers in range, and finite floats without a sign. -/
def isArithmetic : Tree → Bool
  | .binary operator left right =>
      operator.isArithmetic && left.isArithmetic && right.isArithmetic
  | .int value => decide (0 ≤ value) && decide (value ≤ largestInteger)
  | .float value => value.isFinite && !value.negative
  | .var name => name.isName keyword
  | _ => false

/-- True of comparisons of arithmetic and of connectives over conditions. -/
def isCondition : Tree → Bool
  | .binary operator left right =>
      (operator.isRelational && left.isArithmetic keyword && right.isArithmetic keyword) ||
        (operator.isConnective && left.isCondition && right.isCondition)
  | _ => false

mutual

/-- True of statements over conditions, arithmetic and names. -/
def isStatement : Tree → Bool
  | .block statements => areStatements statements
  | .ifThen condition body => condition.isCondition keyword && areStatements body
  | .ifThenElse condition body alternative =>
      condition.isCondition keyword && areStatements body && areStatements alternative
  | .loop condition body => condition.isCondition keyword && areStatements body
  | .declare names => !names.isEmpty && names.all (·.isName keyword)
  | .assign target value => target.isName keyword && value.isArithmetic keyword
  | _ => false

def areStatements : List Tree → Bool
  | [] => true
  | statement :: statements => statement.isStatement && areStatements statements

end

/-- True of blocks of statements. -/
def isProgram : Tree → Bool
  | .block statements => areStatements keyword statements
  | _ => false

/-! ## Nesting -/

/-- How tight a tree binds as an operand. -/
def precedence : Tree → Nat
  | .binary operator _ _ => operator.precedence
  | _ => 6

/-- Parentheses are one level. -/
def enclosedNesting (needed : Bool) (nesting : Nat) : Nat :=
  if needed then nesting + 1 else nesting

mutual

/-- The number of levels that nest in the printed form of a tree: statements, blocks, and the
parentheses that the printer puts around operands. -/
def nesting : Tree → Nat
  | .block statements => nestingOfList statements + 2
  | .ifThen condition body => max condition.nesting (nestingOfList body + 1) + 1
  | .ifThenElse condition body alternative =>
      max condition.nesting (max (nestingOfList body + 1) (nestingOfList alternative + 1)) + 1
  | .loop condition body => max condition.nesting (nestingOfList body + 1) + 1
  | .declare _ => 1
  | .assign _ value => value.nesting + 1
  | .binary operator left right =>
      max (enclosedNesting (needsGroup operator .left left) left.nesting)
        (enclosedNesting (needsGroup operator .right right) right.nesting)
  | .int _ | .float _ | .var _ => 0

def nestingOfList : List Tree → Nat
  | [] => 0
  | statement :: statements => max statement.nesting (nestingOfList statements)

end

/-- The levels of a program, whose block is not a statement. -/
def programNesting : Tree → Nat
  | .block statements => nestingOfList statements + 1
  | tree => tree.nesting

variable {keyword}

theorem precedence_lt_six (operator : Operator) : operator.precedence < 6 := by
  cases operator <;> decide

theorem needsGroup_left (operator : Operator) (tree : Tree) :
    needsGroup operator .left tree = decide (tree.precedence < operator.precedence) := by
  have tight : ¬ 6 < operator.precedence := Nat.lt_asymm (precedence_lt_six operator)
  cases tree with
  | binary => exact Bool.or_false _
  | _ => exact (decide_eq_false tight).symm

theorem needsGroup_right (operator : Operator) (tree : Tree) :
    needsGroup operator .right tree = decide (tree.precedence ≤ operator.precedence) := by
  have tight : ¬ 6 ≤ operator.precedence := Nat.not_le.mpr (precedence_lt_six operator)
  cases tree with
  | binary inner left right =>
      change (decide (inner.precedence < operator.precedence) ||
        inner.precedence == operator.precedence) = decide (inner.precedence ≤ operator.precedence)
      rw [Bool.eq_iff_iff, Bool.or_eq_true, decide_eq_true_eq, beq_iff_eq, decide_eq_true_eq]
      exact Nat.le_iff_lt_or_eq.symm
  | _ => exact (decide_eq_false tight).symm

/-- What binds too loose for a phrase binds too loose for a tighter one. -/
theorem looser_mono {tree : Tree} {precedence precedence' : Nat} (le : precedence ≤ precedence') :
    decide (tree.precedence < precedence) = true →
      decide (tree.precedence < precedence') = true := by
  rw [decide_eq_true_eq, decide_eq_true_eq]
  exact fun looser => Nat.lt_of_lt_of_le looser le

/-- A left operand that needs parentheses binds too loose for a phrase of the operator. -/
theorem looser_of_needsGroup_left {operator : Operator} {tree : Tree} {precedence : Nat}
    (le : operator.precedence ≤ precedence) (needs : needsGroup operator .left tree = true) :
    decide (tree.precedence < precedence) = true := by
  rw [needsGroup_left] at needs
  exact looser_mono le needs

/-- A right operand that needs parentheses binds too loose for an operand of the operator. -/
theorem looser_of_needsGroup_right {operator : Operator} {tree : Tree} {precedence : Nat}
    (lt : operator.precedence < precedence) (needs : needsGroup operator .right tree = true) :
    decide (tree.precedence < precedence) = true := by
  rw [needsGroup_right, decide_eq_true_eq] at needs
  exact decide_eq_true (Nat.lt_of_le_of_lt needs lt)

end Tree

namespace Grammar

/-! ## Phrases of one kind -/

namespace Phrase

/-- True of the phrases that stand for numbers; the others stand for truth values. -/
def isArithmetic : Phrase → Bool
  | .factor | .chain .product | .chain .sum => true
  | .atom | .chain .conjunction | .chain .disjunction => false

/-- The widest phrase of a kind, which may stand in parentheses. -/
def widest (arithmetic : Bool) : Phrase :=
  if arithmetic then .chain .sum else .chain .disjunction

/-- The phrase of a kind that parentheses are. -/
def tightest (arithmetic : Bool) : Phrase := if arithmetic then .factor else .atom

theorem widest_precedence_le (phrase : Phrase) :
    (widest phrase.isArithmetic).precedence ≤ phrase.precedence := by
  cases phrase with
  | factor | atom => decide
  | chain level => cases level <;> decide

theorem precedence_le_tightest (phrase : Phrase) :
    phrase.precedence ≤ (tightest phrase.isArithmetic).precedence := by
  cases phrase with
  | factor | atom => decide
  | chain level => cases level <;> decide

@[simp] theorem isArithmetic_operand (level : Level) :
    level.operand.isArithmetic = (Phrase.chain level).isArithmetic := by
  cases level <;> rfl

/-- Nothing of a kind binds tighter than the operators of a chain and looser than its operands. -/
theorem operand_precedence_le {level : Level} {phrase : Phrase}
    (kind : phrase.isArithmetic = (Phrase.chain level).isArithmetic)
    (lt : level.precedence < phrase.precedence) : level.operand.precedence ≤ phrase.precedence := by
  rcases phrase with _ | _ | (_ | _ | _ | _) <;> cases level <;>
    first
    | decide
    | exact absurd kind (by decide)
    | exact absurd lt (by decide)

end Phrase

namespace Derives

variable {keyword : Token} {levels levels' : Nat} {tokens : List Token} {value : Tree}
  {phrase phrase' : Phrase}

theorem single {level : Level}
    (derives : Derives keyword levels (.phrase level.operand) tokens value) :
    Derives keyword levels (.chain level) tokens value := by
  obtain ⟨operand, derived, same, fits⟩ := derives
  exact ⟨.single level operand, derived, same, fits⟩

/-- What is derived as a phrase is derived as every wider phrase of its kind. -/
theorem widen (derives : Derives keyword levels (.phrase phrase) tokens value)
    (kind : phrase'.isArithmetic = phrase.isArithmetic)
    (le : phrase'.precedence ≤ phrase.precedence) :
    Derives keyword levels (.phrase phrase') tokens value := by
  rcases phrase with _ | _ | (_ | _ | _ | _) <;> rcases phrase' with _ | _ | (_ | _ | _ | _) <;>
    first
    | exact derives
    | exact derives.single
    | exact derives.single.single
    | exact absurd kind (by decide)
    | exact absurd le (by decide)

/-- The widest phrase of a kind in parentheses is the tightest. -/
theorem parenthesize {arithmetic : Bool}
    (derives : Derives keyword levels (.phrase (.widest arithmetic)) tokens value) :
    Derives keyword (levels + 1) (.phrase (.tightest arithmetic)) ("(" :: tokens ++ [")"])
      value := by
  cases arithmetic with
  | true =>
      obtain ⟨inner, rfl, same, fits⟩ := derives
      exact ⟨.parenthesized inner, rfl, same, Nat.succ_le_succ fits⟩
  | false =>
      obtain ⟨inner, rfl, same, fits⟩ := derives
      exact ⟨.group inner, rfl, same, Nat.succ_le_succ fits⟩

theorem joined {level : Level} {operator : Operator} (admits : level.admits operator = true)
    {tokens' : List Token} {value' : Tree}
    (left : Derives keyword levels (.chain level) tokens value)
    (right : Derives keyword levels' (.phrase level.operand) tokens' value') :
    Derives keyword (max levels levels') (.chain level) (tokens ++ operator.text :: tokens')
      (.binary operator value value') := by
  obtain ⟨left, rfl, rfl, fits⟩ := left
  obtain ⟨right, rfl, rfl, fits'⟩ := right
  exact ⟨.joined level left operator admits right, rfl, rfl, by
    simp only [Derivation.depth]; omega⟩

end Derives

/-! ## Printed trees are derived -/

/-- The tokens of a tree are derived, as the tree, as the phrase that binds as tight as it does. -/
def Prints (keyword : Token) (arithmetic : Bool) (tree : Tree) : Prop :=
  ∃ phrase : Phrase, phrase.isArithmetic = arithmetic ∧ phrase.precedence = tree.precedence ∧
    Derives keyword tree.nesting (.phrase phrase) (tree.tokens keyword) tree

namespace Prints

variable {keyword : Token} {arithmetic : Bool} {tree left right : Tree}

/-- A printed tree is derived without parentheses where it binds tight enough. -/
theorem derives (prints : Prints keyword arithmetic tree) {phrase : Phrase}
    (kind : phrase.isArithmetic = arithmetic) (le : phrase.precedence ≤ tree.precedence) :
    Derives keyword tree.nesting (.phrase phrase) (tree.tokens keyword) tree := by
  obtain ⟨natural, rfl, same, derives⟩ := prints
  exact derives.widen kind (same ▸ le)

theorem widest_le (prints : Prints keyword arithmetic tree) :
    (Phrase.widest arithmetic).precedence ≤ tree.precedence := by
  obtain ⟨natural, rfl, same, -⟩ := prints
  rw [← same]
  exact natural.widest_precedence_le

theorem isArithmetic_widest : (Phrase.widest arithmetic).isArithmetic = arithmetic := by
  cases arithmetic <;> rfl

theorem isArithmetic_tightest : (Phrase.tightest arithmetic).isArithmetic = arithmetic := by
  cases arithmetic <;> rfl

/-- An operand is derived with the parentheses that are put around it. -/
theorem enclosed (prints : Prints keyword arithmetic tree) {phrase : Phrase}
    (kind : phrase.isArithmetic = arithmetic) {needed : Bool}
    (free : needed = false → phrase.precedence ≤ tree.precedence) :
    Derives keyword (Tree.enclosedNesting needed tree.nesting) (.phrase phrase)
      (Tree.enclosed needed (tree.tokens keyword)) tree := by
  cases needed with
  | false => exact prints.derives kind (free rfl)
  | true =>
      have inside := prints.derives isArithmetic_widest prints.widest_le
      apply inside.parenthesize.widen (kind.trans isArithmetic_tightest.symm)
      rw [← kind]
      exact phrase.precedence_le_tightest

/-- The printer puts parentheses around exactly the operands that no chain derives without. -/
theorem binary {level : Level} (kind : (Phrase.chain level).isArithmetic = arithmetic)
    {operator : Operator} (admits : level.admits operator = true)
    (printsLeft : Prints keyword arithmetic left) (printsRight : Prints keyword arithmetic right) :
    Prints keyword arithmetic (.binary operator left right) := by
  have same := (level.admits_iff operator).mp admits
  refine ⟨.chain level, kind, same.symm, ?_⟩
  rw [Tree.nesting, Tree.tokens, Tree.needsGroup_left, Tree.needsGroup_right]
  refine Derives.joined admits (printsLeft.enclosed kind fun free => ?_)
    (printsRight.enclosed ((Phrase.isArithmetic_operand level).trans kind) fun free => ?_)
  · rw [decide_eq_false_iff_not, same] at free
    exact Nat.le_of_not_lt free
  · obtain ⟨natural, kindRight, tight, -⟩ := printsRight
    rw [decide_eq_false_iff_not, same, ← tight] at free
    rw [← tight]
    exact Phrase.operand_precedence_le (kindRight.trans kind.symm) (Nat.lt_of_not_le free)

/-- Both sides of a comparison bind tighter than it. -/
theorem comparison {operator : Operator} (relational : operator.isRelational = true)
    (printsLeft : Prints keyword true left) (printsRight : Prints keyword true right) :
    Prints keyword false (.binary operator left right) := by
  have precedence := precedence_of_isRelational relational
  have tightLeft : 4 ≤ left.precedence := printsLeft.widest_le
  have tightRight : 4 ≤ right.precedence := printsRight.widest_le
  have bareLeft : Tree.needsGroup operator .left left = false := by
    rw [Tree.needsGroup_left, decide_eq_false_iff_not]
    omega
  have bareRight : Tree.needsGroup operator .right right = false := by
    rw [Tree.needsGroup_right, decide_eq_false_iff_not]
    omega
  have sumLeft : Derives keyword left.nesting .sum (left.tokens keyword) left :=
    printsLeft.derives rfl tightLeft
  have sumRight : Derives keyword right.nesting .sum (right.tokens keyword) right :=
    printsRight.derives rfl tightRight
  obtain ⟨derivation, derived, value, fits⟩ := sumLeft
  obtain ⟨derivation', derived', value', fits'⟩ := sumRight
  refine ⟨.atom, rfl, precedence.symm, .comparison derivation operator relational derivation', ?_,
    ?_, ?_⟩
  · rw [Derivation.tokens, Tree.tokens, bareLeft, bareRight, derived, derived']
    rfl
  · rw [Derivation.value, value, value']
  · rw [Derivation.depth, Tree.nesting, bareLeft, bareRight]
    exact Nat.max_le.mpr ⟨Nat.le_trans fits (Nat.le_max_left _ _),
      Nat.le_trans fits' (Nat.le_max_right _ _)⟩

end Prints

variable {keyword : Token}

/-- An operand of one token prints as a factor. -/
theorem prints_of_ofOperand {tree : Tree} {token : Token} (printed : tree.tokens keyword = [token])
    (leaf : tree.precedence = 6) (read : Tree.ofOperand token keyword = .ok tree) :
    Prints keyword true tree := by
  obtain ⟨derivation, derived, value, depth⟩ := exists_factor read
  exact ⟨.factor, rfl, leaf.symm, derivation, derived.trans printed.symm, value,
    Nat.le_trans (Nat.le_of_eq depth) (Nat.zero_le _)⟩

/-- The level of an arithmetic operator. -/
theorem exists_arithmetic_level {operator : Operator} (arithmetic : operator.isArithmetic = true) :
    ∃ level : Level, level.admits operator = true ∧ (Phrase.chain level).isArithmetic = true := by
  cases operator <;>
    first
    | exact ⟨.product, rfl, rfl⟩
    | exact ⟨.sum, rfl, rfl⟩
    | cases arithmetic

/-- The level of a connective. -/
theorem exists_connective_level {operator : Operator} (connective : operator.isConnective = true) :
    ∃ level : Level, level.admits operator = true ∧ (Phrase.chain level).isArithmetic = false := by
  cases operator <;>
    first
    | exact ⟨.conjunction, rfl, rfl⟩
    | exact ⟨.disjunction, rfl, rfl⟩
    | cases connective

theorem prints_of_isArithmetic :
    (tree : Tree) → tree.isArithmetic keyword = true → Prints keyword true tree
  | .binary operator left right, shape => by
      rw [Tree.isArithmetic, Bool.and_eq_true, Bool.and_eq_true] at shape
      obtain ⟨⟨arithmetic, shapeLeft⟩, shapeRight⟩ := shape
      obtain ⟨level, admits, kind⟩ := exists_arithmetic_level arithmetic
      exact .binary kind admits (prints_of_isArithmetic left shapeLeft)
        (prints_of_isArithmetic right shapeRight)
  | .int value, shape => by
      rw [Tree.isArithmetic, Bool.and_eq_true, decide_eq_true_eq, decide_eq_true_eq] at shape
      obtain ⟨number, rfl⟩ := Int.eq_ofNat_of_zero_le shape.1
      refine prints_of_ofOperand rfl rfl (Tree.ofOperand_eq_ok_iff.mpr (.inl ⟨?_, ?_, ?_⟩))
      · exact toString_isInteger number
      · rw [toString_integerValue]
        exact Int.ofNat_le.mp shape.2
      · rw [toString_integerValue]
  | .float value, shape => by
      rw [Tree.isArithmetic, Bool.and_eq_true, Bool.not_eq_true'] at shape
      have read := Binary64.source_text_floatValue shape.1 shape.2
      refine prints_of_ofOperand rfl rfl (Tree.ofOperand_eq_ok_iff.mpr (.inr (.inl ⟨?_, ?_, ?_⟩)))
      · exact Binary64.source_text_isFloat shape.1 shape.2
      · rw [read]
        exact shape.1
      · rw [read]
  | .var name, shape =>
      prints_of_ofOperand rfl rfl (Tree.ofOperand_eq_ok_iff.mpr (.inr (.inr ⟨shape, rfl⟩)))

theorem prints_of_isCondition :
    (tree : Tree) → tree.isCondition keyword = true → Prints keyword false tree
  | .binary operator left right, shape => by
      simp only [Tree.isCondition, Bool.or_eq_true, Bool.and_eq_true] at shape
      rcases shape with ⟨⟨relational, shapeLeft⟩, shapeRight⟩ |
        ⟨⟨connective, shapeLeft⟩, shapeRight⟩
      · exact .comparison relational (prints_of_isArithmetic left shapeLeft)
          (prints_of_isArithmetic right shapeRight)
      · obtain ⟨level, admits, kind⟩ := exists_connective_level connective
        exact .binary kind admits (prints_of_isCondition left shapeLeft)
          (prints_of_isCondition right shapeRight)

theorem derives_sum {tree : Tree} (shape : tree.isArithmetic keyword = true) :
    Derives keyword tree.nesting .sum (tree.tokens keyword) tree :=
  have prints := prints_of_isArithmetic tree shape
  prints.derives rfl prints.widest_le

theorem derives_condition {tree : Tree} (shape : tree.isCondition keyword = true) :
    Derives keyword tree.nesting .condition (tree.tokens keyword) tree :=
  have prints := prints_of_isCondition tree shape
  prints.derives rfl prints.widest_le

/-- Statements between braces are a block. -/
theorem Derives.braces {levels : Nat} {tokens : List Token} {body : List Tree}
    (derives : Derives keyword levels .statements tokens body) :
    Derives keyword (levels + 1) .block ("\x7b" :: tokens ++ ["\x7d"]) body := by
  obtain ⟨statements, rfl, same, fits⟩ := derives
  exact ⟨.braces statements, rfl, same, Nat.succ_le_succ fits⟩

mutual

theorem derives_statement :
    (tree : Tree) → tree.isStatement keyword = true →
      Derives keyword tree.nesting .statement (tree.tokens keyword) tree
  | .block statements, shape => by
      obtain ⟨body, derived, value, fits⟩ := (derives_statements statements shape).braces
      exact ⟨.nested body, derived, congrArg Tree.block value, Nat.succ_le_succ fits⟩
  | .ifThen condition body, shape => by
      rw [Tree.isStatement, Bool.and_eq_true] at shape
      obtain ⟨test, derived, rfl, fits⟩ := derives_condition shape.1
      obtain ⟨block, derived', rfl, fits'⟩ := (derives_statements body shape.2).braces
      refine ⟨.ifThen test block, ?_, rfl, ?_⟩
      · simp [Derivation.tokens, Tree.tokens, derived, derived']
      · exact Nat.succ_le_succ (by omega)
  | .ifThenElse condition body alternative, shape => by
      rw [Tree.isStatement, Bool.and_eq_true, Bool.and_eq_true] at shape
      obtain ⟨test, derived, rfl, fits⟩ := derives_condition shape.1.1
      obtain ⟨block, derived', rfl, fits'⟩ := (derives_statements body shape.1.2).braces
      obtain ⟨block', derived'', rfl, fits''⟩ := (derives_statements alternative shape.2).braces
      refine ⟨.ifThenElse test block block', ?_, rfl, ?_⟩
      · simp [Derivation.tokens, Tree.tokens, derived, derived', derived'']
      · exact Nat.succ_le_succ (by omega)
  | .loop condition body, shape => by
      rw [Tree.isStatement, Bool.and_eq_true] at shape
      obtain ⟨test, derived, rfl, fits⟩ := derives_condition shape.1
      obtain ⟨block, derived', rfl, fits'⟩ := (derives_statements body shape.2).braces
      refine ⟨.loop test block, ?_, rfl, ?_⟩
      · simp [Derivation.tokens, Tree.tokens, derived, derived']
      · exact Nat.succ_le_succ (by omega)
  | .declare names, shape => by
      rw [Tree.isStatement, Bool.and_eq_true, List.all_eq_true] at shape
      cases names with
      | nil => exact absurd shape.1 (by decide)
      | cons first others =>
          exact ⟨.declaration first others shape.2, rfl, rfl, Nat.le_refl _⟩
  | .assign target value, shape => by
      rw [Tree.isStatement, Bool.and_eq_true] at shape
      obtain ⟨derivation, derived, rfl, fits⟩ := derives_sum shape.2
      refine ⟨.assignment target shape.1 derivation, ?_, rfl, Nat.succ_le_succ fits⟩
      rw [Derivation.tokens, Tree.tokens, derived]

theorem derives_statements :
    (statements : List Tree) → Tree.areStatements keyword statements = true →
      Derives keyword (Tree.nestingOfList statements) .statements
        (Tree.tokensOfList keyword statements) statements
  | [], _ => ⟨.empty, rfl, rfl, Nat.le_refl _⟩
  | statement :: statements, shape => by
      rw [Tree.areStatements, Bool.and_eq_true] at shape
      obtain ⟨first, derived, value, fits⟩ := derives_statement statement shape.1
      obtain ⟨others, derived', value', fits'⟩ := derives_statements statements shape.2
      refine ⟨.cons first others, ?_, ?_, ?_⟩
      · rw [Derivation.tokens, Tree.tokensOfList, derived, derived']
      · rw [Derivation.value, value, value']
      · rw [Derivation.depth, Tree.nestingOfList]
        omega

end

end Grammar

end BlockLang
