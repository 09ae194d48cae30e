import BlockLang.Number.Layout
import BlockLang.Text.Quoted
import BlockLang.Text.Record
import BlockLang.Tree.Basic

/-!
# Dumps

A dump shows a tree as a record with the name of each constructor and field.
-/

namespace BlockLang.Tree

open Text

/-- A token as a quoted atom. -/
def quotedAtom (token : Token) : Record := .atom (quoted token)

/-- The record of a block with the given statements. -/
def blockRecord (statements : List Record) : Record :=
  .fields "Block" [.labelled "statements" (.list statements)]

mutual

/-- The record of a tree. -/
def record : Tree → Record
  | .block statements => .tuple "Block" [blockRecord (records statements)]
  | .ifThen condition body =>
      .fields "If"
        [.labelled "condition" condition.record,
          .labelled "then_block" (blockRecord (records body)),
          .labelled "else_block" (.atom "None")]
  | .ifThenElse condition body alternative =>
      .fields "If"
        [.labelled "condition" condition.record,
          .labelled "then_block" (blockRecord (records body)),
          .labelled "else_block" (.tuple "Some" [blockRecord (records alternative)])]
  | .loop condition body =>
      .fields "While"
        [.labelled "condition" condition.record,
          .labelled "body" (blockRecord (records body))]
  | .declare names => .fields "Declare" [.labelled "names" (.list (names.map quotedAtom))]
  | .assign target value =>
      .fields "Assign" [.labelled "target" (quotedAtom target), .labelled "value" value.record]
  | .binary operator left right =>
      .fields "BinaryOp"
        [.labelled "operator" (.atom operator.name),
          .labelled "left" left.record,
          .labelled "right" right.record]
  | .int value => .tuple "IntLiteral" [.atom (toString value)]
  | .float value => .tuple "FloatLiteral" [.atom (NumberStyle.dump.text value)]
  | .var name => .tuple "VarRef" [quotedAtom name]

/-- The records of some trees. -/
def records : List Tree → List Record
  | [] => []
  | tree :: trees => tree.record :: records trees

end

end BlockLang.Tree
