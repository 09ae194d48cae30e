import BlockLang.Tree.Source

/-!
# Printers

A printer writes trees piece by piece behind the text that it holds, and keeps the level on which
the next line begins. It is emptied before each tree and gives up its text afterwards, so that one
printer serves for many trees.
-/

namespace BlockLang

/-- A printer with what it has written so far and the level of its lines. -/
structure Printer where
  keyword : Token
  output : String := ""
  level : Nat := 0
  deriving DecidableEq, Repr, Inhabited

namespace Printer

/-- Writes a text behind the others. -/
def put (text : String) (printer : Printer) : Printer :=
  { printer with output := printer.output ++ text }

/-- Writes the spaces before a line. -/
def indent (printer : Printer) : Printer := printer.put (Text.indentation printer.level)

/-- Writes an operand, in parentheses if its operator needs them on that side of another. -/
def putOperand (parent : Operator) (side : Tree.Side) (operand : Tree) (write : Printer → Printer)
    (printer : Printer) : Printer :=
  if Tree.needsGroup parent side operand then (write (printer.put "( ")).put " )"
  else write printer

/-- Writes braces around the lines of statements, which stand one level deeper. Without statements
the braces stay on one line. -/
def putBraces (statements : List Tree) (writeLines : Printer → Printer) (printer : Printer) :
    Printer :=
  if statements.isEmpty then printer.put "\x7b \x7d"
  else
    let opened := printer.put "\x7b\n"
    let inside := writeLines { opened with level := opened.level + 1 }
    ({ inside with level := inside.level - 1 } : Printer).indent.put "\x7d"

mutual

/-- Writes a tree. -/
def write : Tree → Printer → Printer
  | .block statements, printer => printer.putBraces statements (writeLines statements)
  | .ifThen condition body, printer =>
      ((write condition (printer.put "if ( ")).put " ) ").putBraces body (writeLines body)
  | .ifThenElse condition body alternative, printer =>
      ((((write condition (printer.put "if ( ")).put " ) ").putBraces body (writeLines body)).put
        " else ").putBraces alternative (writeLines alternative)
  | .loop condition body, printer =>
      ((write condition (printer.put "while ( ")).put " ) ").putBraces body (writeLines body)
  | .declare names, printer =>
      ((printer.put printer.keyword).put " ").put (" , ".intercalate names)
  | .assign target value, printer => write value ((printer.put target).put " = ")
  | .binary operator left right, printer =>
      ((((printer.putOperand operator .left left (write left)).put " ").put operator.text).put
        " ").putOperand operator .right right (write right)
  | .int value, printer => printer.put (toString value)
  | .float value, printer => printer.put (NumberStyle.source.text value)
  | .var name, printer => printer.put name

/-- Writes statements, each on a line of its own. -/
def writeLines : List Tree → Printer → Printer
  | [], printer => printer
  | statement :: statements, printer =>
      writeLines statements ((write statement printer.indent).put " ;\n")

end

/-- The text of a tree, and the printer that has given it up. -/
def render (tree : Tree) (printer : Printer) : String × Printer :=
  let written := write tree { printer with output := "", level := 0 }
  (written.output, { written with output := "" })

/-- The words of the text of a tree, and the printer that has given it up. -/
def tokens (tree : Tree) (printer : Printer) : List Token × Printer :=
  let (text, printer) := printer.render tree
  (Text.words text, printer)

/-- The printer after it has been used for some trees. -/
def after (printer : Printer) (trees : List Tree) : Printer :=
  trees.foldl (fun printer tree => (printer.render tree).2) printer

end Printer

end BlockLang
