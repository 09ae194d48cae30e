import BlockLang.Token.Basic

/-!
# Syntax errors

A syntax error has a kind, a cause, the position of the token at which it was found, and that token
unless the input ended there. Most causes are expectations: what would have fitted at the position.
-/

namespace BlockLang

/-- The kinds of syntax error. -/
inductive ErrorKind where
  | endOfInput
  | unexpectedToken
  | missingSeparator
  | unterminatedBlock
  | invalidIdentifier
  | invalidTarget
  | missingRelation
  | nestingTooDeep
  deriving DecidableEq, Repr, Inhabited

/-- The title under which a kind is shown. -/
def ErrorKind.title : ErrorKind → String
  | .endOfInput => "Unexpected End Of Input"
  | .unexpectedToken => "Unexpected Token"
  | .missingSeparator => "Missing Separator"
  | .unterminatedBlock => "Unterminated Block"
  | .invalidIdentifier => "Invalid Identifier"
  | .invalidTarget => "Invalid Assign Target"
  | .missingRelation => "Expected Relational Operator"
  | .nestingTooDeep => "Nesting Too Deep"

/-- What would have fitted at a position. -/
inductive Expectation where
  | statement
  | openBlock
  | closeBlock
  | separator
  | word (token : Token)
  | openCondition (keyword : Keyword)
  | closeCondition (keyword : Keyword)
  | identifier
  | target
  | assignment
  | expression
  | operand
  | closeOperand
  | openGroup
  | closeGroup
  | relation
  | programEnd
  | statementEnd
  | described (text : String)
  deriving DecidableEq, Repr, Inhabited

/-- How an expectation is worded. -/
def Expectation.text : Expectation → String
  | .statement => "statement"
  | .openBlock => "'\x7b' to open block"
  | .closeBlock => "'\x7d' to close block"
  | .separator => "';' after statement"
  | .word token => "'" ++ token ++ "'"
  | .openCondition keyword => "'(' after '" ++ keyword.text ++ "'"
  | .closeCondition keyword => "')' after " ++ keyword.text ++ " condition"
  | .identifier => "identifier"
  | .target => "assignment target"
  | .assignment => "'=' after assignment target"
  | .expression => "expression"
  | .operand => "number, variable or '('"
  | .closeOperand => "')' after expression"
  | .openGroup => "'('"
  | .closeGroup => "')' after boolean expression"
  | .relation => "relational operator"
  | .programEnd => "end of input after program block"
  | .statementEnd => "end of input after statement"
  | .described text => text

/-- Why a position does not fit. -/
inductive ErrorCause where
  | expected (expectation : Expectation)
  | integerOutOfRange (token : Token)
  | floatOutOfRange (token : Token)
  | nestingExceeds (limit : Nat)
  | stated (message : String)
  deriving DecidableEq, Repr, Inhabited

/-- A syntax error; `found` is absent at the end of input. -/
structure SyntaxError where
  kind : ErrorKind
  cause : ErrorCause
  position : Nat
  found : Option Token
  deriving DecidableEq, Repr, Inhabited

namespace SyntaxError

/-- The message of an error names what was expected and what was found. -/
def message (error : SyntaxError) : String :=
  match error.cause with
  | .expected expectation =>
      "expected " ++ expectation.text ++
        (match error.found with
        | some token => ", found '" ++ token ++ "'"
        | none => ", found end of input")
  | .integerOutOfRange token => "integer literal '" ++ token ++ "' is out of range"
  | .floatOutOfRange token => "float literal '" ++ token ++ "' is out of range"
  | .nestingExceeds limit => "nesting exceeds the limit of " ++ toString limit ++ " levels"
  | .stated message => message

/-- One line that tells kind, message and position. -/
def text (error : SyntaxError) : String :=
  error.kind.title ++ ": " ++ error.message ++ " at token " ++ toString error.position

/-- The error of an input that ends before what was expected. -/
def endOfInput (expectation : Expectation) (position : Nat) : SyntaxError :=
  ⟨.endOfInput, .expected expectation, position, none⟩

end SyntaxError

end BlockLang
