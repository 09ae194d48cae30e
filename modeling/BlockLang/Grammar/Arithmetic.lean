import BlockLang.Grammar.Basic
import BlockLang.Number.Nearest

/-!
# Arithmetic

An operand is a number, a variable, or an expression in parentheses, which takes one level. Products
bind tighter than sums. The rules for one level are given over the rule for the next group, so the
recursion is on the levels that are left.
-/

namespace BlockLang

/-- The largest integer literal, `2 ^ 63 - 1`. -/
def largestInteger : Nat := 9223372036854775807

/-- The number nearest to a float literal; the point only divides its digits. -/
def Token.floatValue (token : Token) : Binary64 :=
  Binary64.ofQuotient (Nat.ofDigitChars 10 (token.wholePart ++ token.fractionPart) 0)
    (Nat.pow 10 token.fractionPart.length)

/-- The tree of a token that is an operand by itself. -/
def Tree.ofOperand (token keyword : Token) : Except ErrorCause Tree :=
  if token.isInteger then
    if token.integerValue ≤ largestInteger then .ok (.int token.integerValue)
    else .error (.integerOutOfRange token)
  else if token.isFloat then
    if token.floatValue.isFinite then .ok (.float token.floatValue)
    else .error (.floatOutOfRange token)
  else if token.isName keyword then .ok (.var token)
  else .error (.expected .operand)

namespace Grammar

/-- A number or a variable. -/
def operand (settings : Settings) : RuleM Tree := do
  match ← peek with
  | some token =>
      match Tree.ofOperand token settings.keyword with
      | .ok tree =>
          advance
          return tree
      | .error cause => fail .unexpectedToken cause
  | none => refuse .unexpectedToken .expression

/-- A factor is a group when a parenthesis opens it, and a single operand otherwise. -/
def factorOver (settings : Settings) (group : RuleM Tree) : RuleM Tree := do
  if ← check "(" then group else operand settings

/-- Factors joined by multiplicative operators. -/
def termOver (settings : Settings) (group : RuleM Tree) : RuleM Tree :=
  chain (·.family == .multiplicative) (factorOver settings group)

/-- Terms joined by additive operators. -/
def expressionOver (settings : Settings) (group : RuleM Tree) : RuleM Tree :=
  chain (·.family == .additive) (termOver settings group)

/-- An expression in parentheses, with this many levels left for it and what is in it. -/
def arithmeticGroup (settings : Settings) : Nat → RuleM Tree
  | 0 => tooDeep settings
  | levels + 1 => do
      advance
      let tree ← expressionOver settings (arithmeticGroup settings levels)
      require ")" .closeOperand
      return tree

def factor (settings : Settings) (levels : Nat) : RuleM Tree :=
  factorOver settings (arithmeticGroup settings levels)

def term (settings : Settings) (levels : Nat) : RuleM Tree :=
  termOver settings (arithmeticGroup settings levels)

def expression (settings : Settings) (levels : Nat) : RuleM Tree :=
  expressionOver settings (arithmeticGroup settings levels)

end Grammar

end BlockLang
