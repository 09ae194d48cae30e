import BlockLang.Proofs.Independence
import BlockLang.Proofs.Shape

/-!
# Renaming identifiers

A renaming takes identifiers to identifiers, no two of them to one, and leaves the fixed words and
all other tokens as they are. A token passes a test exactly when its image does, also the comparison
with the declaration keyword if that is renamed as well. A cursor over the images looks at the same
place, and errors over them lie where they lay.
-/

namespace BlockLang

open Grammar

/-- A one-to-one change of tokens that keeps the fixed words and whatever is no identifier. -/
structure Renaming where
  image : Token → Token
  injective : Function.Injective image
  word : ∀ keyword : Keyword, image keyword.text = keyword.text
  plain : ∀ token : Token, token.isIdentifier = false → image token = token

namespace Renaming

/-- Two identifiers change places, none of which is a fixed word. -/
def swap (first second : Token) (fits : first.Fit) (fits' : second.Fit) : Renaming where
  image token := if token = first then second else if token = second then first else token
  injective := by
    intro token token' same
    grind
  word keyword := by
    rw [if_neg fun same => fits.2 keyword same.symm, if_neg fun same => fits'.2 keyword same.symm]
  plain token shape := by
    rw [if_neg (Token.ne_of_shape fits.1 shape).symm, if_neg (Token.ne_of_shape fits'.1 shape).symm]

/-! ## What is renamed -/

section Data

variable (rename : Renaming)

mutual

/-- A tree with the images of its names. -/
def tree : Tree → Tree
  | .block statements => .block (trees statements)
  | .ifThen condition body => .ifThen (tree condition) (trees body)
  | .ifThenElse condition body alternative =>
      .ifThenElse (tree condition) (trees body) (trees alternative)
  | .loop condition body => .loop (tree condition) (trees body)
  | .declare names => .declare (names.map rename.image)
  | .assign target value => .assign (rename.image target) (tree value)
  | .binary operator left right => .binary operator (tree left) (tree right)
  | .int value => .int value
  | .float value => .float value
  | .var name => .var (rename.image name)

/-- Some trees with the images of their names. -/
def trees : List Tree → List Tree
  | [] => []
  | first :: others => tree first :: trees others

end

def expectation : Expectation → Expectation
  | .word token => .word (rename.image token)
  | other => other

def cause : ErrorCause → ErrorCause
  | .expected expected => .expected (rename.expectation expected)
  | .integerOutOfRange token => .integerOutOfRange (rename.image token)
  | .floatOutOfRange token => .floatOutOfRange (rename.image token)
  | .nestingExceeds limit => .nestingExceeds limit
  | .stated message => .stated message

/-- The error of the same kind at the same position, with the images of the tokens that it
names. -/
def error (error : SyntaxError) : SyntaxError :=
  ⟨error.kind, rename.cause error.cause, error.position, error.found.map rename.image⟩

/-- The cursor at the same position over the images of the tokens. -/
def cursor (cursor : Cursor) : Cursor where
  tokens := cursor.tokens.map rename.image
  position := cursor.position
  position_le := by simpa using cursor.position_le

def event : Event → Event
  | .dispatched position token => .dispatched position (rename.image token)
  | .consumed position token => .consumed position (rename.image token)
  | other => other

/-- The state at the same position over the images of the tokens, with the same record of them. -/
def state (state : State) : State := ⟨rename.cursor state.cursor, state.log.map rename.event⟩

/-- The settings with the image of the declaration keyword. -/
def settings (settings : Settings) : Settings := ⟨rename.image settings.keyword, settings.maxDepth⟩

def parsed : Parsed → Parsed
  | .tree value => .tree (rename.tree value)
  | .block body => .block (rename.trees body)
  | .statements body => .statements (rename.trees body)

def session (session : Session) : Session :=
  ⟨rename.settings session.settings, rename.state session.state⟩

/-- What a call in a session gives, and the session after it, with images for all tokens. -/
def outcome (outcome : Except SyntaxError Parsed × Session) : Except SyntaxError Parsed × Session :=
  ((outcome.1.map rename.parsed).mapError rename.error, rename.session outcome.2)

/-- What a rule gives, and the state after it, with images for all tokens. -/
def result {α β : Type} (value : α → β) :
    EStateM.Result SyntaxError State α → EStateM.Result SyntaxError State β
  | .ok given finish => .ok (value given) (rename.state finish)
  | .error refused finish => .error (rename.error refused) (rename.state finish)

/-- What a call gives, with the images of its names. -/
def value : (call : Call) → call.Value → call.Value
  | .statements | .block => rename.trees
  | .program | .standalone | .statement | .conditional | .loop | .declaration | .assignment
  | .head _ | .expression | .term | .factor | .condition | .conjunction | .atom | .group
  | .comparison => rename.tree

end Data

/-! ## Tests of one token -/

section Tests

variable (rename : Renaming) {token keyword : Token}

theorem image_eq_iff {first second : Token} :
    rename.image first = rename.image second ↔ first = second :=
  ⟨fun same => rename.injective same, congrArg _⟩

theorem image_beq (first second : Token) :
    (rename.image first == rename.image second) = (first == second) := by
  rw [Bool.eq_iff_iff, beq_iff_eq, beq_iff_eq, rename.image_eq_iff]

/-- What is its own image is the image of no other token. -/
theorem image_eq_iff_of_fixed {lexeme : Token} (fixed : rename.image lexeme = lexeme) :
    rename.image token = lexeme ↔ token = lexeme := by
  have images : rename.image token = rename.image lexeme ↔ token = lexeme := rename.image_eq_iff
  rwa [fixed] at images

theorem image_word (word : Keyword) : rename.image token = word.text ↔ token = word.text :=
  rename.image_eq_iff_of_fixed (rename.word word)

theorem image_plain {lexeme : Token} (plain : lexeme.isIdentifier = false) :
    rename.image token = lexeme ↔ token = lexeme :=
  rename.image_eq_iff_of_fixed (rename.plain lexeme plain)

theorem isIdentifier_image (token : Token) :
    (rename.image token).isIdentifier = token.isIdentifier := by
  cases shape : token.isIdentifier with
  | false => rw [rename.plain token shape, shape]
  | true =>
      cases shape' : (rename.image token).isIdentifier with
      | true => rfl
      | false =>
          -- the image would be its own image, and so the token itself
          have same : rename.image token = token := rename.injective (rename.plain _ shape')
          rw [same, shape] at shape'
          cases shape'

/-- A test that has one result for all identifiers has the same result for a token and its
rename. -/
theorem test_image {α : Type} {test : Token → α} {common : α}
    (uniform : ∀ token : Token, token.isIdentifier = true → test token = common) (token : Token) :
    test (rename.image token) = test token := by
  cases shape : token.isIdentifier with
  | false => rw [rename.plain token shape]
  | true =>
      have shape' := (rename.isIdentifier_image token).trans shape
      rw [uniform token shape, uniform _ shape']

theorem isInteger_image (token : Token) : (rename.image token).isInteger = token.isInteger :=
  rename.test_image (fun _ => Token.isInteger_of_isIdentifier) token

theorem isFloat_image (token : Token) : (rename.image token).isFloat = token.isFloat :=
  rename.test_image (fun _ => Token.isFloat_of_isIdentifier) token

/-- No operator is an identifier. -/
theorem operator_image (token : Token) :
    Operator.ofText? (rename.image token) = Operator.ofText? token := by
  have uniform (token : Token) (shape : token.isIdentifier = true) :
      Operator.ofText? token = none := by
    cases found : Operator.ofText? token with
    | none => rfl
    | some operator =>
        rw [Operator.ofText?_eq_some_iff.mp found] at shape
        cases operator <;> exact absurd shape (by decide)
  exact rename.test_image uniform token

theorem keyword_image (token : Token) :
    Keyword.ofText? (rename.image token) = Keyword.ofText? token := by
  apply Option.ext
  intro word
  rw [Keyword.ofText?_eq_some_iff, Keyword.ofText?_eq_some_iff, rename.image_word]

theorem isName_image (token keyword : Token) :
    (rename.image token).isName (rename.image keyword) = token.isName keyword := by
  rw [Token.isName, Token.isName, Token.isKeyword, Token.isKeyword, isIdentifier_image,
    keyword_image, image_beq]

/-- A literal is its own image, and a name is read as its image. -/
theorem ofOperand_image (token keyword : Token) :
    Tree.ofOperand (rename.image token) (rename.image keyword) =
      ((Tree.ofOperand token keyword).map rename.tree).mapError rename.cause := by
  have plain (shape : token.isInteger = true ∨ token.isFloat = true) :
      rename.image token = token := by
    refine rename.plain token (Bool.eq_false_iff.mpr fun identifier => ?_)
    rw [Token.isInteger_of_isIdentifier identifier, Token.isFloat_of_isIdentifier identifier] at shape
    simp at shape
  rw [Tree.ofOperand, Tree.ofOperand, isInteger_image, isFloat_image, isName_image]
  by_cases integer : token.isInteger = true
  · rw [if_pos integer, if_pos integer, plain (.inl integer)]
    split
    next => rfl
    next => exact congrArg (Except.error ∘ ErrorCause.integerOutOfRange) (plain (.inl integer)).symm
  · rw [if_neg integer, if_neg integer]
    by_cases float : token.isFloat = true
    · rw [if_pos float, if_pos float, plain (.inr float)]
      split
      next => rfl
      next => exact congrArg (Except.error ∘ ErrorCause.floatOutOfRange) (plain (.inr float)).symm
    · rw [if_neg float, if_neg float]
      split <;> rfl

end Tests

/-! ## Cursors and states -/

section States

variable (rename : Renaming)

@[simp] theorem peek_cursor (cursor : Cursor) :
    (rename.cursor cursor).peek = cursor.peek.map rename.image := by
  simp [Renaming.cursor, Cursor.peek]

@[simp] theorem remaining_cursor (cursor : Cursor) :
    (rename.cursor cursor).remaining = cursor.remaining := by
  simp [Renaming.cursor, Cursor.remaining]

@[simp] theorem next_cursor (cursor : Cursor) :
    (rename.cursor cursor).next = rename.cursor cursor.next := by
  by_cases inside : cursor.position < cursor.tokens.size <;>
    simp [Renaming.cursor, Cursor.next, inside]

theorem check_cursor (cursor : Cursor) (lexeme : Token) :
    (rename.cursor cursor).check (rename.image lexeme) = cursor.check lexeme := by
  rw [Cursor.check, Cursor.check, peek_cursor]
  cases cursor.peek with
  | none => rfl
  | some token => simp [rename.image_beq]

@[simp] theorem advanced_state (state : State) :
    (rename.state state).advanced = rename.state state.advanced := by
  unfold State.advanced
  cases front : state.cursor.peek with
  | none => simp [Renaming.state, front]
  | some token =>
      have position : (rename.cursor state.cursor).position = state.cursor.position := rfl
      simp [Renaming.state, front, position, event]

theorem back_state (state : State) (start : Cursor) :
    (rename.state state).back (rename.cursor start) = rename.state (state.back start) := by
  simp [State.back, Renaming.state, Renaming.cursor, event]

theorem errorAt_cursor (cursor : Cursor) (kind : ErrorKind) (cause : ErrorCause) :
    errorAt (rename.cursor cursor) kind (rename.cause cause) =
      rename.error (errorAt cursor kind cause) := by
  simp [errorAt, Renaming.error, Renaming.cursor, Cursor.peek]

/-- Positions stay, so the same one of two errors lies farther on. -/
theorem farther_error (first second : SyntaxError) :
    farther (rename.error first) (rename.error second) =
      rename.error (farther first second) := by
  by_cases order : first.position ≤ second.position <;> simp [farther, Renaming.error, order]

theorem ofTokens_session (settings : Settings) (tokens : List Token) :
    Session.ofTokens (rename.settings settings) (tokens.map rename.image) =
      rename.session (Session.ofTokens settings tokens) := by
  have opened : Cursor.ofList (tokens.map rename.image) = rename.cursor (.ofList tokens) := by
    simp [Cursor.ofList, Cursor.ofArray, Renaming.cursor]
  simp [Session.ofTokens, Session.start, Renaming.session, Renaming.state, opened, event]

end States

end Renaming

end BlockLang
