import BlockLang.Token.Basic

/-!
# Settings

The settings of a language are the keyword that begins a declaration and the number of levels that
may nest. A keyword is fit for use when it has the shape of an identifier and is no fixed word.
-/

namespace BlockLang

structure Settings where
  keyword : Token := "DataType"
  maxDepth : Nat := 256
  deriving DecidableEq, Repr, Inhabited

namespace Settings

/-- What can be wrong with the declaration keyword. -/
inductive Fault where
  | notIdentifier (keyword : Token)
  | reserved (keyword : Token)
  deriving DecidableEq, Repr

def Fault.message : Fault → String
  | .notIdentifier keyword => "declaration keyword '" ++ keyword ++ "' is not a valid identifier"
  | .reserved keyword => "declaration keyword '" ++ keyword ++ "' is reserved"

/-- What is wrong with the declaration keyword, if anything is. -/
def fault? (settings : Settings) : Option Fault :=
  if !Token.isIdentifier settings.keyword then some (.notIdentifier settings.keyword)
  else if (Keyword.ofText? settings.keyword).isSome then some (.reserved settings.keyword)
  else none

theorem fault?_eq_none_iff (settings : Settings) :
    settings.fault? = none ↔
      Token.isIdentifier settings.keyword = true ∧ Keyword.ofText? settings.keyword = none := by
  unfold fault?
  cases Token.isIdentifier settings.keyword <;> cases Keyword.ofText? settings.keyword <;> simp

end Settings

end BlockLang
