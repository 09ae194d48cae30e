import BlockLang.Grammar.Rule

/-!
# Reading canonical text again

A program that has been read is written as canonical text, and the tokens of that text are read
again under the same settings.
-/

namespace BlockLang

/-- How the second reading of a tree compares with the tree. -/
structure Rereading where
  equal : Bool
  stable : Bool
  deriving DecidableEq, Repr, Inhabited

/-- A tree that was read, and what its canonical text is read as. -/
structure RoundTrip where
  text : String
  tokens : List Token
  reread : Except SyntaxError Rereading

/-- Writes a tree and reads it again. -/
def RoundTrip.ofTree (settings : Settings) (tree : Tree) : RoundTrip where
  text := tree.render settings.keyword
  tokens := tree.renderedTokens settings.keyword
  reread := (parseProgram settings (tree.renderedTokens settings.keyword)).map fun again =>
    ⟨tree.same again, again.render settings.keyword == tree.render settings.keyword⟩

/-- Reads a program, writes it and reads it again. -/
def roundTrip (settings : Settings) (tokens : List Token) : Except SyntaxError RoundTrip :=
  (parseProgram settings tokens).map (RoundTrip.ofTree settings)

end BlockLang
