import BlockLang.Proofs.ErrorPosition
import BlockLang.Proofs.Refusal

/-!
# What a message says is expected

The message of most errors says in words what was expected. The words tell the expectation: no other
that can arise in a program is worded alike, or only one that the same token fits. So what the
message names does fit at the error: the tokens before it and the token that is named go on to a
program.
-/

namespace BlockLang

/-- A message says that something is expected, and then what was found. -/
def SyntaxError.Expects (error : SyntaxError) (text : String) : Prop :=
  ∃ found, error.message = "expected " ++ text ++ ", " ++ found

theorem SyntaxError.Expects.of_cause {error : SyntaxError} {expectation : Expectation}
    (cause : error.cause = .expected expectation) : error.Expects expectation.text := by
  rw [Expects, message, cause]
  cases error.found with
  | none => exact ⟨"found end of input", by simp [← String.toList_inj]⟩
  | some token => exact ⟨"found '" ++ token ++ "'", by simp [← String.toList_inj]⟩

/-- Two texts that one message says are expected agree until one of them ends. -/
theorem SyntaxError.Expects.same_letters {error : SyntaxError} {text text' : String}
    (expects : error.Expects text) (expects' : error.Expects text') :
    ∃ before behind, text.toList ++ ',' :: before = text'.toList ++ ',' :: behind := by
  obtain ⟨found, message⟩ := expects
  obtain ⟨found', message'⟩ := expects'
  have letters := congrArg String.toList (message.symm.trans message')
  simp only [String.toList_append, List.append_assoc, List.append_cancel_left_eq] at letters
  exact ⟨_, _, letters⟩

/-- The tokens that the words of a message name. -/
inductive Names (keyword : Token) : String → Token → Prop where
  | lexeme {lexeme : Token} (listed : lexeme ∈ [";", "\x7b", "\x7d", "(", ")", "="])
      (purpose : String) : Names keyword ("'" ++ lexeme ++ "'" ++ purpose) lexeme
  | relation {operator : Operator} (relational : operator.isRelational = true) :
      Names keyword "relational operator" operator.text
  | name {text : String} {token : Token} (listed : text ∈ ["identifier", "assignment target"])
      (named : token.isName keyword = true) : Names keyword text token
  | operand {text : String} {token : Token}
      (listed : text ∈ ["expression", "number, variable or '('"])
      (fits : token = "(" ∨ token.isName keyword = true ∨
        (token.isInteger = true ∧ token.integerValue ≤ largestInteger) ∨
        (token.isFloat = true ∧ token.floatValue.isFinite = true)) : Names keyword text token

/-- What may be expected in a program, or behind it. -/
def Expectation.IsOfProgram (keyword : Token) (expectation : Expectation) : Prop :=
  expectation.IsInner keyword ∨ expectation = .relation ∨ expectation = .programEnd

namespace Expectation

variable {keyword : Token} {expectation : Expectation} {before behind : List Char}

/-- A word that is expected has the shape of an identifier. -/
theorem isIdentifier_of_word {token : Token} (fit : keyword.Fit)
    (arises : (Expectation.word token).IsOfProgram keyword) : token.isIdentifier = true := by
  rcases arises with (rfl | ⟨word, rfl⟩) | other | other
  · exact fit.1
  · cases word <;> decide
  · cases other
  · cases other

/-- An expectation that is worded with a sign in quotes fits the sign, and a word is no sign. -/
theorem fits_of_quoted (fit : keyword.Fit) (arises : expectation.IsOfProgram keyword) {sign : Char}
    (other : Token.isNameStart sign = false)
    (same : expectation.text.toList ++ before = '\'' :: sign :: behind) :
    expectation.Fits keyword (String.singleton sign) := by
  cases expectation with
  | word token =>
      obtain ⟨first, rest, split, start, -⟩ :=
        Token.exists_of_isIdentifier (isIdentifier_of_word fit arises)
      simp only [Expectation.text, String.toList_append, split] at same
      obtain rfl : first = sign := (List.cons.inj (List.cons.inj same).2).1
      rw [start] at other
      cases other
  | described text => simp [IsOfProgram, IsInner] at arises
  | _ =>
      simp only [Expectation.text, String.toList_append] at same
      rw [String.toList_ofList] at same
      have head := List.cons.inj same
      first
        | exact absurd head.1 (by decide)
        | obtain rfl := (List.cons.inj head.2).1
          rfl

/-- An expectation that is worded without quotes is told by its words. -/
theorem eq_of_words (expected : Expectation)
    (plain : expected ∈ [.relation, .identifier, .target, .expression, .operand, .programEnd])
    (arises : expectation.IsOfProgram keyword)
    (same : expectation.text.toList ++ ',' :: before = expected.text.toList ++ ',' :: behind) :
    expectation = expected := by
  simp only [List.mem_cons, List.not_mem_nil, or_false] at plain
  rcases plain with rfl | rfl | rfl | rfl | rfl | rfl <;> cases expectation with
    | described text => simp [IsOfProgram, IsInner] at arises
    | _ =>
        first
          | rfl
          | simp only [Expectation.text, String.toList_append] at same
            rw [String.toList_ofList, String.toList_ofList] at same
            -- Most words differ in their first letter.
            first
              | exact absurd (List.cons.inj same).1 (by decide)
              | simp at same

end Expectation

/-- What the words of a message name fits the expectation that they word. -/
theorem Names.fits {keyword : Token} (fit : keyword.Fit) {expectation : Expectation}
    (arises : expectation.IsOfProgram keyword) {text : String} {token : Token}
    (names : Names keyword text token) {before behind : List Char}
    (same : expectation.text.toList ++ ',' :: before = text.toList ++ ',' :: behind) :
    expectation.Fits keyword token := by
  cases names with
  | lexeme listed purpose =>
      obtain ⟨sign, rfl, other⟩ : ∃ sign : Char, token = String.singleton sign ∧
          Token.isNameStart sign = false := by
        simp only [List.mem_cons, List.not_mem_nil, or_false] at listed
        rcases listed with rfl | rfl | rfl | rfl | rfl | rfl
        · exact ⟨';', rfl, by decide⟩
        · exact ⟨'\x7b', rfl, by decide⟩
        · exact ⟨'\x7d', rfl, by decide⟩
        · exact ⟨'(', rfl, by decide⟩
        · exact ⟨')', rfl, by decide⟩
        · exact ⟨'=', rfl, by decide⟩
      exact Expectation.fits_of_quoted fit arises other (by simpa using same)
  | @relation operator relational =>
      obtain rfl := Expectation.eq_of_words .relation (by decide) arises same
      exact ⟨operator, relational, rfl⟩
  | name listed named =>
      simp only [List.mem_cons, List.not_mem_nil, or_false] at listed
      rcases listed with rfl | rfl
      · obtain rfl := Expectation.eq_of_words .identifier (by decide) arises same
        exact named
      · obtain rfl := Expectation.eq_of_words .target (by decide) arises same
        exact named
  | operand listed read =>
      have fits : token = "(" ∨ ∃ tree, Tree.ofOperand token keyword = .ok tree := by
        simp only [Tree.ofOperand_eq_ok_iff]
        rcases read with rfl | named | ⟨digits, inRange⟩ | ⟨digits, finite⟩
        · exact .inl rfl
        · exact .inr ⟨_, .inr (.inr ⟨named, rfl⟩)⟩
        · exact .inr ⟨_, .inl ⟨digits, inRange, rfl⟩⟩
        · exact .inr ⟨_, .inr (.inl ⟨digits, finite, rfl⟩)⟩
      simp only [List.mem_cons, List.not_mem_nil, or_false] at listed
      rcases listed with rfl | rfl
      · obtain rfl := Expectation.eq_of_words .expression (by decide) arises same
        exact fits
      · obtain rfl := Expectation.eq_of_words .operand (by decide) arises same
        exact fits

/-- An error that says that something is expected has an expectation for its cause. -/
theorem SyntaxError.Justified.exists_cause {error : SyntaxError} {keyword : Token}
    {admits : Expectation → Prop} (justified : error.Justified keyword admits) {text : String}
    (expects : error.Expects text) : ∃ expectation, error.cause = .expected expectation := by
  obtain ⟨found, message⟩ := expects
  have letters := congrArg String.toList message
  cases justified with
  | unfit => exact ⟨_, rfl⟩
  | relation => exact ⟨_, rfl⟩
  | integer => simp [SyntaxError.message] at letters
  | float => simp [SyntaxError.message] at letters
  | nesting => simp [SyntaxError.message] at letters

namespace Grammar

variable {settings : Settings} {tokens : List Token} {error : SyntaxError}

/-- What the message of a refused program says is expected is worded by the cause of the error. -/
theorem exists_expectation_of_expects (refused : parseProgram settings tokens = .error error)
    {text : String} (expects : error.Expects text) :
    ∃ expectation : Expectation, error.cause = .expected expectation ∧
      expectation.IsOfProgram settings.keyword ∧ ∃ before behind,
        expectation.text.toList ++ ',' :: before = text.toList ++ ',' :: behind := by
  obtain ⟨finish, run⟩ := parseProgram_eq_error_iff.mp refused
  have justified := program_justifies settings settings.maxDepth _ error finish run
  obtain ⟨expectation, cause⟩ := justified.exists_cause expects
  refine ⟨expectation, cause, ?_, (SyntaxError.Expects.of_cause cause).same_letters expects⟩
  rcases justified.admits_of_cause cause with (inner | ends) | relation
  · exact .inl inner
  · exact .inr (.inr ends)
  · exact .inr (.inl relation)

/-- Where the end of the input is expected, the tokens before are a program. -/
theorem exists_parseProgram_take (fit : settings.keyword.Fit)
    (refused : parseProgram settings tokens = .error error)
    (cause : error.cause = .expected .programEnd) :
    ∃ tree, parseProgram settings (tokens.take error.position) = .ok tree := by
  obtain ⟨finish, run⟩ := parseProgram_eq_error_iff.mp refused
  rw [program_eq] at run
  obtain ⟨middle, begun, same⟩ : ∃ middle, beginning.run (opening settings tokens) =
      .ok () middle ∧ middle.cursor = (opening settings tokens).cursor :=
    beginning_decides.run_of_leave rfl
  rw [run_bind_of_ok begun] at run
  rcases run_bind_error run with failed | ⟨statements, later, passed, failed⟩
  · -- Inside a block the end of the input is never expected.
    have justified := (statement_block_justifies settings settings.maxDepth).2 middle _ _ failed
    rcases justified.admits_of_cause cause with inner | relation
    · exact inner.elim
    · cases relation
  · obtain ⟨read, reads, derivation, rfl, -, fits⟩ :=
      ((statement_block_sound settings settings.maxDepth).2 middle).ok passed
    have place : error.position = derivation.tokens.length := by
      rcases run_bind_error failed with ended | ⟨_, _, -, impossible⟩
      · obtain ⟨kind, cause, -, rfl, -⟩ := (requireEnd_decides .programEnd).of_error ended
        have position : later.cursor.position = _ := reads.position_eq
        rw [same, position_opening, Nat.zero_add] at position
        exact position
      · cases impossible
    have taken : tokens.take error.position = derivation.tokens := by
      have whole := reads.rest
      rw [same, rest_opening] at whole
      rw [place, whole, List.take_left]
    rw [taken]
    exact ⟨_, parseProgram_of_derivation fit derivation fits⟩

end Grammar

/-- What the message of a refused program says is expected fits there: the tokens before the error
go on to a program with each token that the words name, and they are a program where only the end
of the input was expected. -/
theorem viable_of_expects {settings : Settings} (valid : settings.fault? = none)
    {tokens : List Token} {error : SyntaxError}
    (refused : parseProgram settings tokens = .error error) :
    (∀ text token, error.Expects text → Names settings.keyword text token →
      Viable settings.keyword (tokens.take error.position ++ [token])) ∧
    (error.Expects "end of input after program block" →
      ∃ tree, parseProgram settings (tokens.take error.position) = .ok tree) := by
  have fit := settings.fault?_eq_none_iff_fit.mp valid
  constructor
  · intro text token expects names
    obtain ⟨expectation, cause, arises, before, behind, same⟩ :=
      Grammar.exists_expectation_of_expects refused expects
    obtain ⟨-, -, begun⟩ := Grammar.parseProgram_error_begins refused
    rw [Grammar.viable_iff_begins fit]
    refine begun [token] ?_
    rw [cause]
    exact .token (names.fits fit arises same)
  · intro expects
    obtain ⟨expectation, cause, arises, before, behind, same⟩ :=
      Grammar.exists_expectation_of_expects refused expects
    obtain rfl := Expectation.eq_of_words .programEnd (by decide) arises same
    exact Grammar.exists_parseProgram_take fit refused cause

/-- The error of the group is the farther one in the first program and that of the comparison in the
second, and each goes on with what it asks for. The third ends before its last token. -/
theorem viable_of_expects_default :
    Viable "DataType" ["\x7b", "if", "(", "(", "a", "<", "1", ")"] ∧
      Viable "DataType" ["\x7b", "if", "(", "(", "a", ")", ">="] ∧
      ∃ tree, parseProgram {} ["\x7b", "\x7d"] = .ok tree := by
  have grouped : parseProgram {} ["\x7b", "if", "(", "(", "a", "<", "1", "\x7b"] =
      .error ⟨.unexpectedToken, .expected .closeGroup, 7, some "\x7b"⟩ := rfl
  have compared : parseProgram {} ["\x7b", "if", "(", "(", "a", ")", ")", "\x7b"] =
      .error ⟨.missingRelation, .expected .relation, 6, some ")"⟩ := rfl
  have ended : parseProgram {} ["\x7b", "\x7d", ";"] =
      .error ⟨.unexpectedToken, .expected .programEnd, 2, some ";"⟩ := rfl
  have closes : SyntaxError.Expects ⟨.unexpectedToken, .expected .closeGroup, 7, some "\x7b"⟩
      Expectation.closeGroup.text := .of_cause rfl
  have relates : SyntaxError.Expects ⟨.missingRelation, .expected .relation, 6, some ")"⟩
      Expectation.relation.text := .of_cause rfl
  have ends : SyntaxError.Expects ⟨.unexpectedToken, .expected .programEnd, 2, some ";"⟩
      Expectation.programEnd.text := .of_cause rfl
  have quoted : Expectation.closeGroup.text =
      "'" ++ ")" ++ "'" ++ " after boolean expression" := by decide
  have listed : ")" ∈ [";", "\x7b", "\x7d", "(", ")", "="] := by decide
  have relational : Operator.greaterEqual.isRelational = true := rfl
  refine ⟨?_, ?_, ?_⟩
  · rw [quoted] at closes
    exact (viable_of_expects (by decide) grouped).1 _ _ closes (.lexeme listed _)
  · exact (viable_of_expects (by decide) compared).1 _ _ relates (.relation relational)
  · exact (viable_of_expects (by decide) ended).2 ends

end BlockLang
