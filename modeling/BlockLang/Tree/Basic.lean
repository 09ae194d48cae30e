import BlockLang.Number.Binary64
import BlockLang.Token.Basic

/-!
# Trees

Statements and expressions share one type of trees. A tree can be built in shapes that no program
has; which shapes a rule gives is a property of the rule.
-/

namespace BlockLang

inductive Tree where
  | block (statements : List Tree)
  | ifThen (condition : Tree) (body : List Tree)
  | ifThenElse (condition : Tree) (body alternative : List Tree)
  | loop (condition : Tree) (body : List Tree)
  | declare (names : List Token)
  | assign (target : Token) (value : Tree)
  | binary (operator : Operator) (left right : Tree)
  | int (value : Int)
  | float (value : Binary64)
  | var (name : Token)
  deriving Inhabited

namespace Tree

/-- True when the tree is a comparison or joins truth values. -/
def isBoolean : Tree → Bool
  | .binary operator _ _ => operator.isBoolean
  | _ => false

mutual

/-- Trees are the same when they agree in shape, names, operators and numbers; float literals
compare by value, so NaN is not the same as itself and the two zeros are. -/
def same : Tree → Tree → Bool
  | .block first, .block second => sameList first second
  | .ifThen condition body, .ifThen condition' body' =>
      condition.same condition' && sameList body body'
  | .ifThenElse condition body alternative, .ifThenElse condition' body' alternative' =>
      condition.same condition' && sameList body body' && sameList alternative alternative'
  | .loop condition body, .loop condition' body' =>
      condition.same condition' && sameList body body'
  | .declare names, .declare names' => names == names'
  | .assign target value, .assign target' value' => target == target' && value.same value'
  | .binary operator left right, .binary operator' left' right' =>
      operator == operator' && left.same left' && right.same right'
  | .int value, .int value' => value == value'
  | .float value, .float value' => value.same value'
  | .var name, .var name' => name == name'
  | _, _ => false

/-- Lists of trees are the same when they have one length and are the same place by place. -/
def sameList : List Tree → List Tree → Bool
  | [], [] => true
  | first :: firsts, second :: seconds => first.same second && sameList firsts seconds
  | _, _ => false

end

end Tree

end BlockLang
