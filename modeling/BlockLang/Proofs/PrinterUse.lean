import BlockLang.Proofs.Printing
import BlockLang.Tree.Printer

/-!
# A used printer prints as a new one

What a printer writes for a tree is the canonical text of the tree on the level of the printer, put
behind the text that it holds. Since it is emptied before each tree, earlier uses leave no trace,
and the words of its text are the tokens that the tree has by recursion.
-/

namespace BlockLang

namespace Printer

/-- What is written behind the text of any printer, for its keyword and on its level. -/
def Writes (write : Printer → Printer) (text : Token → Nat → String) : Prop :=
  ∀ printer, write printer = printer.put (text printer.keyword printer.level)

section Steps

variable (printer : Printer)

@[simp] theorem keyword_put (text : String) : (printer.put text).keyword = printer.keyword := rfl

@[simp] theorem level_put (text : String) : (printer.put text).level = printer.level := rfl

/-- Texts that are written in turn are written as one. -/
@[simp] theorem put_put (first second : String) :
    (printer.put first).put second = printer.put (first ++ second) := by
  simp [put, String.append_assoc]

@[simp] theorem put_empty : printer.put "" = printer := by
  simp [put]

variable {write : Printer → Printer}

/-- An operand is written as its text, in parentheses if it needs them. -/
theorem putOperand_eq (parent : Operator) (side : Tree.Side) (operand : Tree)
    (writes : Writes write fun keyword level => operand.source keyword level) :
    printer.putOperand parent side operand write =
      printer.put (Tree.grouped (Tree.needsGroup parent side operand)
        (operand.source printer.keyword printer.level)) := by
  unfold putOperand Tree.grouped
  split
  next => rw [writes, put_put, put_put, keyword_put, level_put, String.append_assoc]
  next => exact writes printer

/-- Braces are written with the lines between them one level deeper. -/
theorem putBraces_eq (statements : List Tree)
    (writes : Writes write fun keyword level => Tree.sourceLines keyword level statements) :
    printer.putBraces statements write =
      printer.put (Tree.braced printer.level
        (Tree.sourceLines printer.keyword (printer.level + 1) statements)) := by
  unfold putBraces Tree.braced
  rw [Tree.isEmpty_sourceLines]
  split
  next => rfl
  next =>
    dsimp only
    rw [writes]
    simp [put, indent, String.append_assoc]

end Steps

mutual

/-- What is written for a tree is its canonical text on the level of the printer. -/
theorem write_eq : (tree : Tree) → (printer : Printer) →
    write tree printer = printer.put (tree.source printer.keyword printer.level)
  | .block statements, printer => by
      rw [write, Tree.source]
      exact printer.putBraces_eq statements (writeLines_eq statements)
  | .ifThen condition body, printer => by
      rw [write, write_eq condition, putBraces_eq _ body (writeLines_eq body), Tree.source]
      simp [String.append_assoc]
  | .ifThenElse condition body alternative, printer => by
      rw [write, write_eq condition, putBraces_eq _ body (writeLines_eq body),
        putBraces_eq _ alternative (writeLines_eq alternative), Tree.source]
      simp [String.append_assoc]
  | .loop condition body, printer => by
      rw [write, write_eq condition, putBraces_eq _ body (writeLines_eq body), Tree.source]
      simp [String.append_assoc]
  | .declare names, printer => by
      rw [write, Tree.source, put_put, put_put, String.append_assoc]
  | .assign target value, printer => by
      rw [write, write_eq value, Tree.source]
      simp [String.append_assoc]
  | .binary operator left right, printer => by
      rw [write, putOperand_eq _ operator .left left (write_eq left),
        putOperand_eq _ operator .right right (write_eq right), Tree.source]
      simp [String.append_assoc]
  | .int _, _ => by
      rw [write, Tree.source]
  | .float _, _ => by
      rw [write, Tree.source]
  | .var _, _ => by
      rw [write, Tree.source]

theorem writeLines_eq : (statements : List Tree) → (printer : Printer) →
    writeLines statements printer =
      printer.put (Tree.sourceLines printer.keyword printer.level statements)
  | [], printer => by
      rw [writeLines, Tree.sourceLines, put_empty]
  | statement :: statements, printer => by
      rw [writeLines, writeLines_eq statements, write_eq statement, Tree.sourceLines]
      simp [indent, String.append_assoc]

end

/-! ## Uses -/

/-- A printer gives the canonical text of a tree, whatever it holds and on whatever level it is,
and is empty behind it. -/
theorem render_eq (printer : Printer) (tree : Tree) :
    printer.render tree = (tree.render printer.keyword, ⟨printer.keyword, "", 0⟩) := by
  rw [render, write_eq]
  simp [put, Tree.render]

/-- Uses keep the keyword of a printer. -/
theorem keyword_after (printer : Printer) (trees : List Tree) :
    (printer.after trees).keyword = printer.keyword := by
  induction trees generalizing printer with
  | nil => rfl
  | cons tree trees ih =>
      have first : (printer.render tree).2.keyword = printer.keyword := by rw [render_eq]
      exact (ih (printer.render tree).2).trans first

end Printer

/-- An operand needs parentheses when its operator binds weaker than the one around it, or equally
and on the right-hand side. -/
theorem Tree.needsGroup_iff {parent : Operator} {side : Side} {operand : Tree} :
    needsGroup parent side operand = true ↔
      ∃ operator left right, operand = .binary operator left right ∧
        (operator.precedence < parent.precedence ∨
          side = .right ∧ operator.precedence = parent.precedence) := by
  cases operand with
  | binary operator left right => simp [needsGroup]
  | _ => simp [needsGroup]

/-- Where the keyword and the names are solid, the words of what a printer gives for a tree are the
tokens of the tree, however the printer has been used before. Among these tokens an operand stands
in parentheses exactly when its operator binds weaker than the one around it, or equally and on the
right-hand side. -/
theorem Printer.tokens_after (printer : Printer) (trees : List Tree) (tree : Tree)
    (solid : Text.Solid printer.keyword) (named : ∀ name ∈ tree.names, Text.Solid name) :
    ((printer.after trees).tokens tree).1 = tree.tokens printer.keyword ∧
      ∀ (parent : Operator) (side : Tree.Side) (operand : Tree),
        Tree.needsGroup parent side operand = true ↔
          ∃ operator left right, operand = .binary operator left right ∧
            (operator.precedence < parent.precedence ∨
              side = .right ∧ operator.precedence = parent.precedence) := by
  refine ⟨?_, fun _ _ _ => Tree.needsGroup_iff⟩
  rw [tokens, render_eq, keyword_after]
  exact Tree.renderedTokens_eq_tokens solid named

/-- The printer stands inside a block when it is used for a name with a blank in it, and then for a
loop that stands as an operand, with a sum whose right-hand side is a difference. -/
theorem Printer.tokens_after_block :
    ((Printer.mk "let" "rest" 2 |>.after [.block [.var "a b"]]).tokens
      (.binary .multiply (.binary .add (.int (-1)) (.binary .subtract (.var "x") (.declare [])))
        (.loop (.var "y") [.assign "z" (.int 2)]))).1 =
      ["(", "-1", "+", "(", "x", "-", "let", ")", ")", "*", "while", "(", "y", ")", "\x7b", "z",
        "=", "2", ";", "\x7d"] := by
  have solid : Text.Solid "let" := .of_all (by decide) (by decide)
  refine (Printer.tokens_after _ _ _ solid fun name member => ?_).1.trans rfl
  have known : name = "x" ∨ name = "y" ∨ name = "z" := by
    simpa [Tree.names, Tree.namesOfList] using member
  rcases known with rfl | rfl | rfl <;> exact .of_all (by decide) (by decide)

end BlockLang
