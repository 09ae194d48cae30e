import BlockLang.Number.Layout
import BlockLang.Text.Blank
import BlockLang.Tree.Basic

/-!
# Canonical source text

Every tree has one canonical text, whose tokens stand between blanks. Statements of a block stand on
lines of their own, and an operand stands in parentheses exactly when its operator binds weaker than
the one around it, or equally on the right-hand side, since every operator groups to the left.
-/

namespace BlockLang.Tree

open Text (indentation)

/-- The side of an operator on which an operand stands. -/
inductive Side where
  | left | right
  deriving DecidableEq, Repr

/-- True when an operand needs parentheses on the given side of an operator. -/
def needsGroup (parent : Operator) (side : Side) : Tree → Bool
  | .binary operator _ _ =>
      operator.precedence < parent.precedence ||
        (side == .right && operator.precedence == parent.precedence)
  | _ => false

/-- Puts a text in parentheses if it needs them. -/
def grouped (needed : Bool) (text : String) : String :=
  if needed then "( " ++ text ++ " )" else text

/-- Braces around lines of statements, the closing one on the given level. -/
def braced (level : Nat) (lines : String) : String :=
  if lines.isEmpty then "\x7b \x7d" else "\x7b\n" ++ lines ++ indentation level ++ "\x7d"

mutual

/-- The canonical text of a tree that begins on the given level. -/
def source (keyword : Token) (level : Nat) : Tree → String
  | .block statements => braced level (sourceLines keyword (level + 1) statements)
  | .ifThen condition body =>
      "if ( " ++ condition.source keyword level ++ " ) " ++
        braced level (sourceLines keyword (level + 1) body)
  | .ifThenElse condition body alternative =>
      "if ( " ++ condition.source keyword level ++ " ) " ++
        braced level (sourceLines keyword (level + 1) body) ++ " else " ++
        braced level (sourceLines keyword (level + 1) alternative)
  | .loop condition body =>
      "while ( " ++ condition.source keyword level ++ " ) " ++
        braced level (sourceLines keyword (level + 1) body)
  | .declare names => keyword ++ " " ++ " , ".intercalate names
  | .assign target value => target ++ " = " ++ value.source keyword level
  | .binary operator left right =>
      grouped (needsGroup operator .left left) (left.source keyword level) ++
        " " ++ operator.text ++ " " ++
        grouped (needsGroup operator .right right) (right.source keyword level)
  | .int value => toString value
  | .float value => NumberStyle.source.text value
  | .var name => name

/-- The lines of a list of statements on the given level. -/
def sourceLines (keyword : Token) (level : Nat) : List Tree → String
  | [] => ""
  | statement :: statements =>
      indentation level ++ statement.source keyword level ++ " ;\n" ++
        sourceLines keyword level statements

end

/-- The canonical text of a tree. -/
def render (keyword : Token) (tree : Tree) : String := tree.source keyword 0

/-- The tokens of the canonical text of a tree. -/
def renderedTokens (keyword : Token) (tree : Tree) : List Token := Text.words (tree.render keyword)

end BlockLang.Tree
