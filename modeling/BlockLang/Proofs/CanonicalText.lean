import BlockLang.Proofs.Grammatical
import BlockLang.Proofs.Program

/-!
# Canonical text is read back

The canonical text of a grammatical program is read as that program whenever the limit admits the
printed form. Names of a grammatical tree are identifiers, which hold no blank, and its numbers are
finite and without a sign, so it is the same as itself and as no other.
-/

namespace BlockLang

namespace Token

theorem isBlank_of_isNameRest {c : Char} (part : isNameRest c = true) : Text.isBlank c = false := by
  rw [isNameRest, Bool.or_eq_true, beq_iff_eq] at part
  rcases part with letterOrDigit | rfl
  · rcases Bool.or_eq_true_iff.mp letterOrDigit with letter | digit
    · have codes := codes_of_isAlpha letter
      exact Text.isBlank_of_code (by omega) (by omega)
    · have code := codes_of_isDigit digit
      exact Text.isBlank_of_code (by omega) (by omega)
  · decide

/-- An identifier holds no blank. -/
theorem solid_of_isIdentifier {token : Token} (shape : token.isIdentifier = true) :
    Text.Solid token := by
  obtain ⟨first, rest, split, start, others⟩ := exists_of_isIdentifier shape
  constructor
  · rintro rfl
    cases split
  · intro c member
    rw [split, List.mem_cons] at member
    rcases member with rfl | member
    · apply isBlank_of_isNameRest
      rw [isNameStart, Bool.or_eq_true] at start
      rw [isNameRest, Bool.or_eq_true]
      exact start.imp_left fun letter => Bool.or_eq_true_iff.mpr (.inl letter)
    · exact isBlank_of_isNameRest (List.all_eq_true.mp others c member)

end Token

/-- Numbers without a sign that are the same are equal. -/
theorem Binary64.eq_of_same {x y : Binary64} (positive : x.negative = false)
    (positive' : y.negative = false) (agree : x.same y = true) : x = y := by
  obtain ⟨negative, magnitude, bound⟩ := x
  obtain ⟨negative', magnitude', bound'⟩ := y
  simp only [same, Bool.and_eq_true, beq_iff_eq] at positive positive' agree
  rw [mk.injEq]
  exact ⟨positive.trans positive'.symm, agree.1.2⟩

theorem Operator.isConnective_of_isRelational {operator : Operator}
    (relational : operator.isRelational = true) : operator.isConnective = false := by
  cases operator <;> first | rfl | cases relational

namespace Tree

variable {keyword : Token}

/-! ## Names -/

theorem isName_of_isArithmetic :
    (tree : Tree) → tree.isArithmetic keyword = true →
      ∀ name ∈ tree.names, name.isName keyword = true
  | .binary operator left right, shape => by
      rw [isArithmetic, Bool.and_eq_true, Bool.and_eq_true] at shape
      intro name member
      rw [names, List.mem_append] at member
      rcases member with member | member
      · exact isName_of_isArithmetic left shape.1.2 name member
      · exact isName_of_isArithmetic right shape.2 name member
  | .int _, _ | .float _, _ => by
      intro name member
      cases member
  | .var name, shape => by
      rintro name ⟨⟩
      · exact shape
      · contradiction

theorem isName_of_isCondition :
    (tree : Tree) → tree.isCondition keyword = true →
      ∀ name ∈ tree.names, name.isName keyword = true
  | .binary operator left right, shape => by
      simp only [isCondition, Bool.or_eq_true, Bool.and_eq_true] at shape
      intro name member
      rw [names, List.mem_append] at member
      rcases shape with shape | shape
      · rcases member with member | member
        · exact isName_of_isArithmetic left shape.1.2 name member
        · exact isName_of_isArithmetic right shape.2 name member
      · rcases member with member | member
        · exact isName_of_isCondition left shape.1.2 name member
        · exact isName_of_isCondition right shape.2 name member

mutual

/-- The names in a grammatical statement can name variables. -/
theorem isName_of_isStatement :
    (tree : Tree) → tree.isStatement keyword = true →
      ∀ name ∈ tree.names, name.isName keyword = true
  | .block statements, shape => isName_of_areStatements statements shape
  | .ifThen condition body, shape => by
      rw [isStatement, Bool.and_eq_true] at shape
      intro name member
      rw [names, List.mem_append] at member
      rcases member with member | member
      · exact isName_of_isCondition condition shape.1 name member
      · exact isName_of_areStatements body shape.2 name member
  | .ifThenElse condition body alternative, shape => by
      rw [isStatement, Bool.and_eq_true, Bool.and_eq_true] at shape
      intro name member
      rw [names, List.mem_append, List.mem_append] at member
      rcases member with (member | member) | member
      · exact isName_of_isCondition condition shape.1.1 name member
      · exact isName_of_areStatements body shape.1.2 name member
      · exact isName_of_areStatements alternative shape.2 name member
  | .loop condition body, shape => by
      rw [isStatement, Bool.and_eq_true] at shape
      intro name member
      rw [names, List.mem_append] at member
      rcases member with member | member
      · exact isName_of_isCondition condition shape.1 name member
      · exact isName_of_areStatements body shape.2 name member
  | .declare list, shape => by
      rw [isStatement, Bool.and_eq_true, List.all_eq_true] at shape
      exact shape.2
  | .assign target value, shape => by
      rw [isStatement, Bool.and_eq_true] at shape
      intro name member
      rw [names, List.mem_cons] at member
      rcases member with rfl | member
      · exact shape.1
      · exact isName_of_isArithmetic value shape.2 name member

theorem isName_of_areStatements :
    (statements : List Tree) → areStatements keyword statements = true →
      ∀ name ∈ namesOfList statements, name.isName keyword = true
  | [], _ => by
      intro name member
      cases member
  | statement :: statements, shape => by
      rw [areStatements, Bool.and_eq_true] at shape
      intro name member
      rw [namesOfList, List.mem_append] at member
      rcases member with member | member
      · exact isName_of_isStatement statement shape.1 name member
      · exact isName_of_areStatements statements shape.2 name member

end

/-! ## Sameness -/

theorem same_self_of_isArithmetic :
    (tree : Tree) → tree.isArithmetic keyword = true → tree.same tree = true
  | .binary operator left right, shape => by
      rw [isArithmetic, Bool.and_eq_true, Bool.and_eq_true] at shape
      rw [same, same_self_of_isArithmetic left shape.1.2, same_self_of_isArithmetic right shape.2]
      simp
  | .int _, _ | .var _, _ => by simp [same]
  | .float value, shape => by
      rw [isArithmetic, Bool.and_eq_true, Binary64.isFinite, decide_eq_true_eq] at shape
      rw [same, Binary64.same_self, Bool.not_eq_true', Binary64.isNaN, decide_eq_false_iff_not]
      omega

theorem same_self_of_isCondition :
    (tree : Tree) → tree.isCondition keyword = true → tree.same tree = true
  | .binary operator left right, shape => by
      simp only [isCondition, Bool.or_eq_true, Bool.and_eq_true] at shape
      rcases shape with shape | shape
      · rw [same, same_self_of_isArithmetic left shape.1.2,
          same_self_of_isArithmetic right shape.2]
        simp
      · rw [same, same_self_of_isCondition left shape.1.2, same_self_of_isCondition right shape.2]
        simp

mutual

/-- A grammatical statement is the same as itself. -/
theorem same_self_of_isStatement :
    (tree : Tree) → tree.isStatement keyword = true → tree.same tree = true
  | .block statements, shape => by
      rw [same]
      exact sameList_self_of_areStatements statements shape
  | .ifThen condition body, shape => by
      rw [isStatement, Bool.and_eq_true] at shape
      rw [same, same_self_of_isCondition condition shape.1,
        sameList_self_of_areStatements body shape.2]
      rfl
  | .ifThenElse condition body alternative, shape => by
      rw [isStatement, Bool.and_eq_true, Bool.and_eq_true] at shape
      rw [same, same_self_of_isCondition condition shape.1.1,
        sameList_self_of_areStatements body shape.1.2,
        sameList_self_of_areStatements alternative shape.2]
      rfl
  | .loop condition body, shape => by
      rw [isStatement, Bool.and_eq_true] at shape
      rw [same, same_self_of_isCondition condition shape.1,
        sameList_self_of_areStatements body shape.2]
      rfl
  | .declare list, _ => by simp [same]
  | .assign target value, shape => by
      rw [isStatement, Bool.and_eq_true] at shape
      rw [same, same_self_of_isArithmetic value shape.2]
      simp

theorem sameList_self_of_areStatements :
    (statements : List Tree) → areStatements keyword statements = true →
      sameList statements statements = true
  | [], _ => rfl
  | statement :: statements, shape => by
      rw [areStatements, Bool.and_eq_true] at shape
      rw [sameList, same_self_of_isStatement statement shape.1,
        sameList_self_of_areStatements statements shape.2]
      rfl

end

theorem eq_of_same_of_isArithmetic :
    (tree tree' : Tree) → tree.isArithmetic keyword = true → tree'.isArithmetic keyword = true →
      tree.same tree' = true → tree = tree'
  | .binary operator left right, .binary operator' left' right', shape, shape', agree => by
      rw [isArithmetic, Bool.and_eq_true, Bool.and_eq_true] at shape shape'
      rw [same, Bool.and_eq_true, Bool.and_eq_true, beq_iff_eq] at agree
      rw [agree.1.1, eq_of_same_of_isArithmetic left left' shape.1.2 shape'.1.2 agree.1.2,
        eq_of_same_of_isArithmetic right right' shape.2 shape'.2 agree.2]
  | .int value, .int value', _, _, agree => by
      rw [same, beq_iff_eq] at agree
      rw [agree]
  | .float value, .float value', shape, shape', agree => by
      rw [isArithmetic, Bool.and_eq_true, Bool.not_eq_true'] at shape shape'
      rw [same] at agree
      rw [Binary64.eq_of_same shape.2 shape'.2 agree]
  | .var name, .var name', _, _, agree => by
      rw [same, beq_iff_eq] at agree
      rw [agree]

theorem eq_of_same_of_isCondition :
    (tree tree' : Tree) → tree.isCondition keyword = true → tree'.isCondition keyword = true →
      tree.same tree' = true → tree = tree'
  | .binary operator left right, .binary operator' left' right', shape, shape', agree => by
      rw [same, Bool.and_eq_true, Bool.and_eq_true, beq_iff_eq] at agree
      obtain ⟨⟨rfl, agreeLeft⟩, agreeRight⟩ := agree
      simp only [isCondition, Bool.or_eq_true, Bool.and_eq_true] at shape shape'
      cases relational : operator.isRelational with
      | true =>
          simp only [relational, Operator.isConnective_of_isRelational relational, true_and,
            false_and, or_false, Bool.false_eq_true] at shape shape'
          rw [eq_of_same_of_isArithmetic left left' shape.1 shape'.1 agreeLeft,
            eq_of_same_of_isArithmetic right right' shape.2 shape'.2 agreeRight]
      | false =>
          simp only [relational, Bool.false_eq_true, false_and, false_or] at shape shape'
          rw [eq_of_same_of_isCondition left left' shape.1.2 shape'.1.2 agreeLeft,
            eq_of_same_of_isCondition right right' shape.2 shape'.2 agreeRight]

mutual

/-- Grammatical statements that are the same are equal. -/
theorem eq_of_same_of_isStatement :
    (tree tree' : Tree) → tree.isStatement keyword = true → tree'.isStatement keyword = true →
      tree.same tree' = true → tree = tree'
  | .block statements, .block statements', shape, shape', agree =>
      congrArg block (eq_of_sameList_of_areStatements statements statements' shape shape' agree)
  | .ifThen condition body, .ifThen condition' body', shape, shape', agree => by
      rw [isStatement, Bool.and_eq_true] at shape shape'
      rw [same, Bool.and_eq_true] at agree
      rw [eq_of_same_of_isCondition condition condition' shape.1 shape'.1 agree.1,
        eq_of_sameList_of_areStatements body body' shape.2 shape'.2 agree.2]
  | .ifThenElse condition body alternative, .ifThenElse condition' body' alternative', shape,
      shape', agree => by
      rw [isStatement, Bool.and_eq_true, Bool.and_eq_true] at shape shape'
      rw [same, Bool.and_eq_true, Bool.and_eq_true] at agree
      rw [eq_of_same_of_isCondition condition condition' shape.1.1 shape'.1.1 agree.1.1,
        eq_of_sameList_of_areStatements body body' shape.1.2 shape'.1.2 agree.1.2,
        eq_of_sameList_of_areStatements alternative alternative' shape.2 shape'.2 agree.2]
  | .loop condition body, .loop condition' body', shape, shape', agree => by
      rw [isStatement, Bool.and_eq_true] at shape shape'
      rw [same, Bool.and_eq_true] at agree
      rw [eq_of_same_of_isCondition condition condition' shape.1 shape'.1 agree.1,
        eq_of_sameList_of_areStatements body body' shape.2 shape'.2 agree.2]
  | .declare names, .declare names', _, _, agree => by
      rw [same, beq_iff_eq] at agree
      rw [agree]
  | .assign target value, .assign target' value', shape, shape', agree => by
      rw [isStatement, Bool.and_eq_true] at shape shape'
      rw [same, Bool.and_eq_true, beq_iff_eq] at agree
      rw [agree.1, eq_of_same_of_isArithmetic value value' shape.2 shape'.2 agree.2]

theorem eq_of_sameList_of_areStatements :
    (statements statements' : List Tree) → areStatements keyword statements = true →
      areStatements keyword statements' = true → sameList statements statements' = true →
      statements = statements'
  | [], [], _, _, _ => rfl
  | statement :: statements, statement' :: statements', shape, shape', agree => by
      rw [areStatements, Bool.and_eq_true] at shape shape'
      rw [sameList, Bool.and_eq_true] at agree
      rw [eq_of_same_of_isStatement statement statement' shape.1 shape'.1 agree.1,
        eq_of_sameList_of_areStatements statements statements' shape.2 shape'.2 agree.2]

end

/-! ## Programs -/

theorem exists_of_isProgram {tree : Tree} (shape : tree.isProgram keyword = true) :
    ∃ statements, tree = .block statements ∧ areStatements keyword statements = true := by
  cases tree with
  | block statements => exact ⟨statements, rfl, shape⟩
  | _ => cases shape

theorem same_self_of_isProgram {tree : Tree} (shape : tree.isProgram keyword = true) :
    tree.same tree = true := by
  obtain ⟨statements, rfl, shape⟩ := exists_of_isProgram shape
  rw [same]
  exact sameList_self_of_areStatements statements shape

theorem eq_of_same_of_isProgram {tree tree' : Tree} (shape : tree.isProgram keyword = true)
    (shape' : tree'.isProgram keyword = true) (agree : tree.same tree' = true) : tree = tree' := by
  obtain ⟨statements, rfl, shape⟩ := exists_of_isProgram shape
  obtain ⟨statements', rfl, shape'⟩ := exists_of_isProgram shape'
  rw [same] at agree
  exact congrArg block (eq_of_sameList_of_areStatements statements statements' shape shape' agree)

/-- The words of the canonical text of a grammatical program are its tokens. -/
theorem renderedTokens_of_isProgram (fit : keyword.Fit) {tree : Tree}
    (shape : tree.isProgram keyword = true) :
    tree.renderedTokens keyword = tree.tokens keyword := by
  obtain ⟨statements, rfl, shape⟩ := exists_of_isProgram shape
  refine renderedTokens_eq_tokens (Token.solid_of_isIdentifier fit.1) fun name member => ?_
  have named := isName_of_areStatements statements shape name member
  exact Token.solid_of_isIdentifier (Token.isIdentifier_of_isName named)

/-- A grammatical program that nests within the limit is read back from its canonical text. -/
theorem parseProgram_of_isProgram (fit : keyword.Fit) {tree : Tree}
    (shape : tree.isProgram keyword = true) {maxDepth : Nat}
    (fits : tree.programNesting ≤ maxDepth) :
    parseProgram ⟨keyword, maxDepth⟩ (tree.renderedTokens keyword) = .ok tree := by
  rw [renderedTokens_of_isProgram fit shape]
  obtain ⟨statements, rfl, shape⟩ := exists_of_isProgram shape
  obtain ⟨derivation, derived, value, depth⟩ := (Grammar.derives_statements statements shape).braces
  have parsed :=
    Grammar.parseProgram_of_derivation fit derivation (Nat.le_trans depth fits)
  rw [derived, value] at parsed
  exact parsed

end Tree

/-- For a keyword that is fit for use, a grammatical program is read back from the words of its
canonical text under every limit that admits the printed form. -/
theorem parseProgram_renderedTokens {settings : Settings} (valid : settings.fault? = none)
    {tree : Tree} (shape : tree.isProgram settings.keyword = true)
    (fits : tree.programNesting ≤ settings.maxDepth) :
    parseProgram settings (tree.renderedTokens settings.keyword) = .ok tree ∧
      tree.same tree = true :=
  have fit := settings.fault?_eq_none_iff_fit.mp valid
  ⟨Tree.parseProgram_of_isProgram fit shape fits, Tree.same_self_of_isProgram shape⟩

/-- Both operands of the connective begin with a parenthesis, and only the second is a group. -/
theorem parseProgram_renderedTokens_mixed :
    let sum : Tree := .binary .multiply (.binary .add (.var "a") (.int 1)) (.float (.ofBits 2))
    let tree : Tree := .block [.loop (.binary .and (.binary .less sum (.var "b"))
      (.binary .or (.binary .equal (.var "c") sum) (.binary .greater (.var "d") (.int 0)))) []]
    parseProgram ⟨"let", 4⟩ (tree.renderedTokens "let") = .ok tree :=
  (parseProgram_renderedTokens (by decide) (by decide) (by decide)).1

end BlockLang
