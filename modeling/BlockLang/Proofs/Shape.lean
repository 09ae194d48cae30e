import BlockLang.Grammar.Arithmetic
import BlockLang.Settings

/-!
# Shapes of tokens

No token is of two kinds. Integers, floats and names differ in their characters, operators and
punctuation are single texts that none of them has, and a declaration keyword that is fit for use is
an identifier. So the order in which the shapes of a token are tried does not matter.
-/

namespace BlockLang.Token

/-- The letters have the codes of two ranges. -/
theorem codes_of_isAlpha {c : Char} (letter : c.isAlpha = true) :
    (65 ≤ c.toNat ∧ c.toNat ≤ 90) ∨ (97 ≤ c.toNat ∧ c.toNat ≤ 122) := by
  have either : c.isUpper = true ∨ c.isLower = true := Bool.or_eq_true_iff.mp letter
  rcases either with upper | lower
  · obtain ⟨low, high⟩ := of_decide_eq_true upper
    exact .inl ⟨UInt32.le_iff_toNat_le.mp low, UInt32.le_iff_toNat_le.mp high⟩
  · obtain ⟨low, high⟩ := Bool.and_eq_true_iff.mp lower
    exact .inr ⟨UInt32.le_iff_toNat_le.mp (of_decide_eq_true low),
      UInt32.le_iff_toNat_le.mp (of_decide_eq_true high)⟩

theorem codes_of_isDigit {c : Char} (digit : c.isDigit = true) : 48 ≤ c.toNat ∧ c.toNat ≤ 57 := by
  obtain ⟨low, high⟩ := Bool.and_eq_true_iff.mp digit
  exact ⟨UInt32.le_iff_toNat_le.mp (of_decide_eq_true low),
    UInt32.le_iff_toNat_le.mp (of_decide_eq_true high)⟩

/-- A letter or an underscore is no digit. -/
theorem isDigit_of_isNameStart {c : Char} (start : isNameStart c = true) : c.isDigit = false := by
  rw [Bool.eq_false_iff]
  intro digit
  have code := codes_of_isDigit digit
  rw [isNameStart, Bool.or_eq_true, beq_iff_eq] at start
  rcases start with letter | rfl
  · have codes := codes_of_isAlpha letter
    omega
  · exact absurd digit (by decide)

/-- What begins like a name is not written in digits. -/
theorem isDigits_of_isNameStart {first : Char} {rest : List Char}
    (start : isNameStart first = true) : isDigits (first :: rest) = false := by
  simp [isDigits, isDigit_of_isNameStart start]

theorem exists_of_isIdentifier {token : Token} (shape : token.isIdentifier = true) :
    ∃ first rest, token.toList = first :: rest ∧ isNameStart first = true ∧
      rest.all isNameRest = true := by
  unfold isIdentifier at shape
  split at shape
  next => cases shape
  next first rest split =>
    rw [Bool.and_eq_true] at shape
    exact ⟨first, rest, split, shape.1, shape.2⟩

theorem isInteger_of_isIdentifier {token : Token} (shape : token.isIdentifier = true) :
    token.isInteger = false := by
  obtain ⟨first, rest, split, start, -⟩ := exists_of_isIdentifier shape
  rw [isInteger, split]
  exact isDigits_of_isNameStart start

theorem isFloat_of_isIdentifier {token : Token} (shape : token.isIdentifier = true) :
    token.isFloat = false := by
  obtain ⟨first, rest, split, start, -⟩ := exists_of_isIdentifier shape
  have noPoint : first ≠ '.' := by
    rintro rfl
    simp [isNameStart] at start
  have whole : token.wholePart = first :: rest.takeWhile (· != '.') := by
    rw [wholePart, split, List.takeWhile_cons]
    simp [noPoint]
  simp [isFloat, whole, isDigits_of_isNameStart start]

/-- A float literal has a point, which an integer literal has not. -/
theorem isInteger_of_isFloat {token : Token} (shape : token.isFloat = true) :
    token.isInteger = false := by
  simp only [isFloat, Bool.and_eq_true] at shape
  have point : '.' ∈ token.toList := by simpa using shape.1.1
  rw [isInteger, isDigits, Bool.and_eq_false_iff]
  right
  rw [List.all_eq_false]
  exact ⟨'.', point, by decide⟩

theorem isIdentifier_of_isName {token keyword : Token} (named : token.isName keyword = true) :
    token.isIdentifier = true := by
  rw [isName, Bool.and_eq_true] at named
  exact named.1

/-- A name is no fixed word and not the declaration keyword. -/
theorem ne_of_isName {token keyword : Token} (named : token.isName keyword = true) :
    (∀ word : Keyword, token ≠ word.text) ∧ token ≠ keyword := by
  simp only [isName, isKeyword, Bool.and_eq_true, Bool.not_eq_true', Bool.or_eq_false_iff,
    beq_eq_false_iff_ne] at named
  refine ⟨?_, named.2.2⟩
  rintro word rfl
  simp at named

/-- A token of another shape than all of the given tokens is none of them. -/
theorem ne_of_shape {shape : Token → Bool} {token other : Token} (holds : shape token = true)
    (fails : shape other = false) : token ≠ other := by
  rintro rfl
  rw [holds] at fails
  cases fails

end BlockLang.Token

namespace BlockLang

/-- The operands of one token are the integers in range, the finite floats and the names. -/
theorem Tree.ofOperand_eq_ok_iff {token keyword : Token} {tree : Tree} :
    Tree.ofOperand token keyword = .ok tree ↔
      (token.isInteger = true ∧ token.integerValue ≤ largestInteger ∧
          tree = .int token.integerValue) ∨
        (token.isFloat = true ∧ token.floatValue.isFinite = true ∧
          tree = .float token.floatValue) ∨
        (token.isName keyword = true ∧ tree = .var token) := by
  unfold Tree.ofOperand
  by_cases integer : token.isInteger = true
  · have notFloat : ¬ token.isFloat = true := by
      intro shape
      rw [Token.isInteger_of_isFloat shape] at integer
      cases integer
    have notName : ¬ token.isName keyword = true := by
      intro named
      rw [Token.isInteger_of_isIdentifier (Token.isIdentifier_of_isName named)] at integer
      cases integer
    by_cases inRange : token.integerValue ≤ largestInteger
    · simpa [integer, notFloat, notName, inRange] using eq_comm
    · simp [integer, notFloat, notName, inRange]
  · by_cases float : token.isFloat = true
    · have notName : ¬ token.isName keyword = true := by
        intro named
        rw [Token.isFloat_of_isIdentifier (Token.isIdentifier_of_isName named)] at float
        cases float
      by_cases finite : token.floatValue.isFinite = true
      · simpa [integer, float, notName, finite] using eq_comm
      · simp [integer, float, notName, finite]
    · by_cases named : token.isName keyword = true
      · simpa [integer, float, named] using eq_comm
      · simp [integer, float, named]

/-- A token that is no operand is a literal out of range, or no literal and no name. -/
theorem Tree.cause_of_ofOperand {token keyword : Token} {cause : ErrorCause}
    (refused : Tree.ofOperand token keyword = .error cause) :
    (cause = .integerOutOfRange token ∧ token.isInteger = true ∧
        largestInteger < token.integerValue) ∨
      (cause = .floatOutOfRange token ∧ token.isFloat = true ∧
        token.floatValue.isFinite = false) ∨
      cause = .expected .operand := by
  unfold Tree.ofOperand at refused
  split at refused
  next digits =>
    split at refused
    next => cases refused
    next beyond =>
      cases refused
      exact .inl ⟨rfl, digits, Nat.lt_of_not_le beyond⟩
  next =>
    split at refused
    next digits =>
      split at refused
      next => cases refused
      next infinite =>
        cases refused
        exact .inr (.inl ⟨rfl, digits, Bool.eq_false_iff.mpr infinite⟩)
    next =>
      split at refused
      next => cases refused
      next =>
        cases refused
        exact .inr (.inr rfl)

/-- A keyword that is fit for use is an identifier and no fixed word. -/
def Token.Fit (keyword : Token) : Prop :=
  keyword.isIdentifier = true ∧ ∀ word : Keyword, keyword ≠ word.text

theorem Settings.fault?_eq_none_iff_fit (settings : Settings) :
    settings.fault? = none ↔ settings.keyword.Fit := by
  rw [Settings.fault?_eq_none_iff, Token.Fit]
  refine and_congr_right fun _ => ?_
  constructor
  · rintro absent word same
    rw [same, Keyword.ofText?_text] at absent
    cases absent
  · intro other
    cases found : Keyword.ofText? settings.keyword with
    | none => rfl
    | some word => exact absurd (Keyword.ofText?_eq_some_iff.mp found) (other word)

end BlockLang
