import BlockLang.Operator

/-!
# Tokens and their shapes

A token is a text, and nothing else is known of it: what it can stand for is read off its shape.
The shapes are ASCII by rule, so a digit or a letter of another script belongs to none of them.
-/

namespace BlockLang

/-- One lexical unit, which is its text. -/
abbrev Token := String

/-- The fixed words of the language. -/
inductive Keyword where
  | ifWord | elseWord | whileWord
  deriving DecidableEq, Repr, Inhabited

namespace Keyword

def text : Keyword → Token
  | .ifWord => "if"
  | .elseWord => "else"
  | .whileWord => "while"

/-- The fixed word with the given token. -/
def ofText? (token : Token) : Option Keyword :=
  [ifWord, elseWord, whileWord].find? fun keyword => keyword.text == token

@[simp] theorem ofText?_text (keyword : Keyword) : ofText? keyword.text = some keyword := by
  cases keyword <;> decide

theorem ofText?_eq_some_iff {token : Token} {keyword : Keyword} :
    ofText? token = some keyword ↔ token = keyword.text := by
  constructor
  · intro found
    have same : keyword.text = token := by simpa using List.find?_some found
    exact same.symm
  · rintro rfl
    exact ofText?_text keyword

end Keyword

namespace Token

/-- The tokens that open, close and separate. -/
def punctuation : List Token := ["(", ")", "\x7b", "\x7d", ";", ","]

/-- The token between the target and the value of an assignment. -/
def assign : Token := "="

/-- A nonempty run of decimal digits. -/
def isDigits (chars : List Char) : Bool := !chars.isEmpty && chars.all Char.isDigit

/-- An integer literal is a run of digits. -/
def isInteger (token : Token) : Bool := isDigits token.toList

/-- The characters before the first point. -/
def wholePart (token : Token) : List Char := token.toList.takeWhile (· != '.')

/-- The characters after the first point. -/
def fractionPart (token : Token) : List Char := (token.toList.dropWhile (· != '.')).drop 1

/-- A float literal is two runs of digits around a point. -/
def isFloat (token : Token) : Bool :=
  token.toList.contains '.' && isDigits (wholePart token) && isDigits (fractionPart token)

/-- A letter or an underscore. -/
def isNameStart (c : Char) : Bool := c.isAlpha || c == '_'

/-- A letter, a digit or an underscore. -/
def isNameRest (c : Char) : Bool := c.isAlphanum || c == '_'

/-- A token has the shape of an identifier when letters, digits and underscores make it up and the
first of them is no digit. -/
def isIdentifier (token : Token) : Bool :=
  match token.toList with
  | [] => false
  | first :: rest => isNameStart first && rest.all isNameRest

/-- True of the fixed words and of the declaration keyword. -/
def isKeyword (token declaration : Token) : Bool :=
  (Keyword.ofText? token).isSome || token == declaration

/-- A token can name a variable when it has the shape of an identifier and is no keyword. -/
def isName (token declaration : Token) : Bool :=
  token.isIdentifier && !token.isKeyword declaration

/-- True of the assignment token and of the tokens of the binary operators. -/
def isOperator (token : Token) : Bool := token == assign || (Operator.ofText? token).isSome

def isPunctuation (token : Token) : Bool := punctuation.contains token

/-- What a token can stand for. -/
inductive Category where
  | keyword | identifier | integerLiteral | floatLiteral | operator | punctuation | unknown
  deriving DecidableEq, Repr, Inhabited

/-- The name of a category in a listing. -/
def Category.text : Category → String
  | .keyword => "keyword"
  | .identifier => "identifier"
  | .integerLiteral => "integer literal"
  | .floatLiteral => "float literal"
  | .operator => "operator"
  | .punctuation => "punctuation"
  | .unknown => "unknown"

/-- The category of a token under a declaration keyword; a keyword is never anything else. -/
def category (token declaration : Token) : Category :=
  if token.isKeyword declaration then .keyword
  else if token.isInteger then .integerLiteral
  else if token.isFloat then .floatLiteral
  else if token.isIdentifier then .identifier
  else if token.isOperator then .operator
  else if token.isPunctuation then .punctuation
  else .unknown

/-- The number that an integer literal stands for. -/
def integerValue (token : Token) : Nat := Nat.ofDigitChars 10 token.toList 0

end Token

end BlockLang
