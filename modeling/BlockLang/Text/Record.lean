import BlockLang.Text.Blank

/-!
# Records

A record is a nested value with labels, lists and named parts. It is written on one line, or with
every part on a line of its own, indented and followed by a comma.
-/

namespace BlockLang.Text

/-- A value to be written out. -/
inductive Record where
  | atom (text : String)
  | labelled (label : String) (value : Record)
  | list (items : List Record)
  | tuple (name : String) (items : List Record)
  | fields (name : String) (items : List Record)
  deriving Inhabited

namespace Record

/-- Parts on lines of their own between an opening and a closing text; no parts take no lines. -/
def enclosed (level : Nat) (opening lines closing : String) : String :=
  if lines.isEmpty then opening ++ closing
  else opening ++ "\n" ++ lines ++ indentation level ++ closing

mutual

/-- A record on one line. -/
def inline : Record → String
  | .atom text => text
  | .labelled label value => label ++ ": " ++ value.inline
  | .list items => "[" ++ ", ".intercalate (inlineItems items) ++ "]"
  | .tuple name items => name ++ "(" ++ ", ".intercalate (inlineItems items) ++ ")"
  | .fields name items => name ++ " \x7b " ++ ", ".intercalate (inlineItems items) ++ " \x7d"

/-- Each of some records on one line. -/
def inlineItems : List Record → List String
  | [] => []
  | item :: items => item.inline :: inlineItems items

end

mutual

/-- A record that begins on the given level, with its parts one level deeper. -/
def spread (level : Nat) : Record → String
  | .atom text => text
  | .labelled label value => label ++ ": " ++ value.spread level
  | .list items => enclosed level "[" (spreadLines (level + 1) items) "]"
  | .tuple name items => enclosed level (name ++ "(") (spreadLines (level + 1) items) ")"
  | .fields name items => enclosed level (name ++ " \x7b") (spreadLines (level + 1) items) "\x7d"

/-- Some records on lines of their own. -/
def spreadLines (level : Nat) : List Record → String
  | [] => ""
  | item :: items =>
      indentation level ++ item.spread level ++ ",\n" ++ spreadLines level items

end

end Record

end BlockLang.Text
