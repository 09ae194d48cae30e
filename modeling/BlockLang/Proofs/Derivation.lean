import BlockLang.Grammar.Rule

/-!
# Derivations

The grammar of programs, apart from how they are read. A derivation of a symbol says which
production is used at each place; it determines a list of tokens, a value, and the number of levels
that nest in it. A repetition derives its operands one after the other and groups them to the left,
and parentheses leave no trace in the value.

```
block      := "{" statements "}"
statements := { statement ";" }
statement  := "if" "(" condition ")" block [ "else" block ] | "while" "(" condition ")" block
            | block | keyword name { "," name } | name "=" sum
condition  := conjunction { "||" conjunction }      conjunction := atom { "&&" atom }
atom       := sum relation sum | "(" condition ")"
sum        := product { ( "+" | "-" ) product }     product     := factor { ( "*" | "/" ) factor }
factor     := integer | float | name | "(" sum ")"
```
-/

namespace BlockLang.Grammar

/-- The repetitions of the grammar, each a chain of operands with operators between them. -/
inductive Level where
  | product | sum | conjunction | disjunction
  deriving DecidableEq, Repr

/-- The symbols whose derivations are expressions and conditions. -/
inductive Phrase where
  | factor
  | atom
  | chain (level : Level)
  deriving DecidableEq, Repr

namespace Level

/-- The operators between the operands of a chain. -/
def admits : Level → Operator → Bool
  | .product => (·.family == .multiplicative)
  | .sum => (·.family == .additive)
  | .conjunction => (· == .and)
  | .disjunction => (· == .or)

/-- The operands of a chain. -/
def operand : Level → Phrase
  | .product => .factor
  | .sum => .chain .product
  | .conjunction => .atom
  | .disjunction => .chain .conjunction

/-- The precedence of the operators of a chain. -/
def precedence : Level → Nat
  | .product => 5
  | .sum => 4
  | .conjunction => 2
  | .disjunction => 1

/-- The operators of a chain are those of its precedence. -/
theorem admits_iff (level : Level) (operator : Operator) :
    level.admits operator = true ↔ operator.precedence = level.precedence := by
  cases level <;> cases operator <;> decide

end Level

/-- The least precedence of an operator that stands in a phrase outside parentheses. -/
def Phrase.precedence : Phrase → Nat
  | .factor => 6
  | .atom => 3
  | .chain level => level.precedence

/-- The operands of a chain bind tighter than its operators. -/
theorem Level.precedence_lt_operand (level : Level) :
    level.precedence < level.operand.precedence := by
  cases level <;> decide

theorem precedence_of_isRelational {operator : Operator}
    (relational : operator.isRelational = true) : operator.precedence = 3 := by
  cases operator <;> first | rfl | cases relational

/-- The symbols of the grammar. -/
inductive Symbol where
  | phrase (phrase : Phrase)
  | statement
  | statements
  | block
  deriving DecidableEq, Repr

namespace Symbol

abbrev factor : Symbol := .phrase .factor

abbrev atom : Symbol := .phrase .atom

abbrev chain (level : Level) : Symbol := .phrase (.chain level)

abbrev sum : Symbol := .chain .sum

abbrev condition : Symbol := .chain .disjunction

/-- What a derivation of a symbol stands for. -/
@[reducible] def Value : Symbol → Type
  | .phrase _ => Tree
  | .statement => Tree
  | .statements => List Tree
  | .block => List Tree

end Symbol

/-- The derivations of the grammar under a declaration keyword. -/
inductive Derivation (keyword : Token) : Symbol → Type where
  | integer (token : Token) (digits : token.isInteger = true)
      (inRange : token.integerValue ≤ largestInteger) : Derivation keyword .factor
  | float (token : Token) (digits : token.isFloat = true)
      (finite : token.floatValue.isFinite = true) : Derivation keyword .factor
  | reference (token : Token) (named : token.isName keyword = true) : Derivation keyword .factor
  | parenthesized (inner : Derivation keyword .sum) : Derivation keyword .factor
  | comparison (left : Derivation keyword .sum) (operator : Operator)
      (relational : operator.isRelational = true) (right : Derivation keyword .sum) :
      Derivation keyword .atom
  | group (inner : Derivation keyword .condition) : Derivation keyword .atom
  | single (level : Level) (operand : Derivation keyword (.phrase level.operand)) :
      Derivation keyword (.chain level)
  | joined (level : Level) (left : Derivation keyword (.chain level)) (operator : Operator)
      (admitted : level.admits operator = true)
      (right : Derivation keyword (.phrase level.operand)) : Derivation keyword (.chain level)
  | ifThen (condition : Derivation keyword .condition) (body : Derivation keyword .block) :
      Derivation keyword .statement
  | ifThenElse (condition : Derivation keyword .condition)
      (body alternative : Derivation keyword .block) : Derivation keyword .statement
  | loop (condition : Derivation keyword .condition) (body : Derivation keyword .block) :
      Derivation keyword .statement
  | nested (body : Derivation keyword .block) : Derivation keyword .statement
  | declaration (first : Token) (others : List Token)
      (named : ∀ name ∈ first :: others, name.isName keyword = true) :
      Derivation keyword .statement
  | assignment (target : Token) (named : target.isName keyword = true)
      (value : Derivation keyword .sum) : Derivation keyword .statement
  | empty : Derivation keyword .statements
  | cons (first : Derivation keyword .statement) (others : Derivation keyword .statements) :
      Derivation keyword .statements
  | braces (statements : Derivation keyword .statements) : Derivation keyword .block

namespace Derivation

variable {keyword : Token}

/-- The tokens that a derivation derives. -/
def tokens {symbol : Symbol} : Derivation keyword symbol → List Token
  | .integer token _ _ => [token]
  | .float token _ _ => [token]
  | .reference token _ => [token]
  | .parenthesized inner => "(" :: inner.tokens ++ [")"]
  | .comparison left operator _ right => left.tokens ++ operator.text :: right.tokens
  | .group inner => "(" :: inner.tokens ++ [")"]
  | .single _ operand => operand.tokens
  | .joined _ left operator _ right => left.tokens ++ operator.text :: right.tokens
  | .ifThen condition body =>
      Keyword.ifWord.text :: "(" :: condition.tokens ++ ")" :: body.tokens
  | .ifThenElse condition body alternative =>
      Keyword.ifWord.text :: "(" :: condition.tokens ++ ")" :: body.tokens ++
        Keyword.elseWord.text :: alternative.tokens
  | .loop condition body =>
      Keyword.whileWord.text :: "(" :: condition.tokens ++ ")" :: body.tokens
  | .nested body => body.tokens
  | .declaration first others _ => keyword :: first :: others.flatMap fun name => [",", name]
  | .assignment target _ value => target :: Token.assign :: value.tokens
  | .empty => []
  | .cons first others => first.tokens ++ ";" :: others.tokens
  | .braces statements => "\x7b" :: statements.tokens ++ ["\x7d"]

/-- What a derivation stands for. -/
def value {symbol : Symbol} : Derivation keyword symbol → symbol.Value
  | .integer token _ _ => Tree.int token.integerValue
  | .float token _ _ => Tree.float token.floatValue
  | .reference token _ => Tree.var token
  | .parenthesized inner => inner.value
  | .comparison left operator _ right => Tree.binary operator left.value right.value
  | .group inner => inner.value
  | .single _ operand => operand.value
  | .joined _ left operator _ right => Tree.binary operator left.value right.value
  | .ifThen condition body => Tree.ifThen condition.value body.value
  | .ifThenElse condition body alternative =>
      Tree.ifThenElse condition.value body.value alternative.value
  | .loop condition body => Tree.loop condition.value body.value
  | .nested body => Tree.block body.value
  | .declaration first others _ => Tree.declare (first :: others)
  | .assignment target _ value => Tree.assign target value.value
  | .empty => []
  | .cons first others => first.value :: others.value
  | .braces statements => statements.value

/-- The number of levels that nest in a derivation: statements, blocks, operands in parentheses and
groups take one each, and the parentheses behind a fixed word take none. -/
def depth {symbol : Symbol} : Derivation keyword symbol → Nat
  | .integer _ _ _ | .float _ _ _ | .reference _ _ | .empty => 0
  | .parenthesized inner => inner.depth + 1
  | .comparison left _ _ right => max left.depth right.depth
  | .group inner => inner.depth + 1
  | .single _ operand => operand.depth
  | .joined _ left _ _ right => max left.depth right.depth
  | .ifThen condition body => max condition.depth body.depth + 1
  | .ifThenElse condition body alternative =>
      max condition.depth (max body.depth alternative.depth) + 1
  | .loop condition body => max condition.depth body.depth + 1
  | .nested body => body.depth + 1
  | .declaration _ _ _ => 1
  | .assignment _ _ value => value.depth + 1
  | .cons first others => max first.depth others.depth
  | .braces statements => statements.depth + 1

end Derivation

/-! ## The rule of a symbol -/

/-- The rule that reads a chain or one of its operands. -/
def Phrase.rule (settings : Settings) (levels : Nat) : Phrase → RuleM Tree
  | .factor => Grammar.factor settings levels
  | .atom => atomOver settings levels (conditionGroup settings levels)
  | .chain .product => term settings levels
  | .chain .sum => expression settings levels
  | .chain .conjunction => conjunctionOver settings levels (conditionGroup settings levels)
  | .chain .disjunction => condition settings levels

/-- The rule that reads a symbol. -/
def Symbol.rule (settings : Settings) (levels : Nat) : (symbol : Symbol) → RuleM symbol.Value
  | .phrase part => part.rule settings levels
  | .statement => Grammar.statement settings levels
  | .statements => Grammar.statements settings levels
  | .block => Grammar.block settings levels

/-- A chain is read as operands with the operators of its level between them. -/
theorem rule_chain (settings : Settings) (levels : Nat) (level : Level) :
    (Phrase.chain level).rule settings levels =
      Grammar.chain level.admits (level.operand.rule settings levels) := by
  cases level <;> rfl

end BlockLang.Grammar
