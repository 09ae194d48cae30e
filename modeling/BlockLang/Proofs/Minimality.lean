import BlockLang.Proofs.Reprinting

/-!
# Canonical text is minimal

What is read and the canonical text of what was read differ in nothing but redundant parentheses and
in how numbers are written. The tokens of the canonical text occur in the input in their order, and
apart from parentheses nothing else does: parentheses that the printer writes around an operand were
derived there too. So among the inputs that are read as one program the canonical text is shortest.
-/

namespace BlockLang

/-- What a token stands for: a number by its value, and any other token as it is written. -/
inductive Lexeme where
  | integer (value : Nat)
  | float (value : Binary64)
  | word (token : Token)
  deriving DecidableEq

namespace Token

def lexeme (token : Token) : Lexeme :=
  if token.isInteger then .integer token.integerValue
  else if token.isFloat then .float token.floatValue
  else .word token

def isParenthesis (token : Token) : Bool := token == "(" || token == ")"

theorem lexeme_of_isInteger {token : Token} (shape : token.isInteger = true) :
    token.lexeme = .integer token.integerValue := if_pos shape

theorem lexeme_of_isFloat {token : Token} (shape : token.isFloat = true) :
    token.lexeme = .float token.floatValue := by
  rw [lexeme, isInteger_of_isFloat shape, if_neg (by decide), if_pos shape]

theorem isParenthesis_of_shape {shape : Token → Bool} {token : Token} (holds : shape token = true)
    (fails : shape "(" = false ∧ shape ")" = false) : token.isParenthesis = false := by
  rw [isParenthesis, beq_eq_false_iff_ne.mpr (ne_of_shape holds fails.1),
    beq_eq_false_iff_ne.mpr (ne_of_shape holds fails.2)]
  rfl

end Token

/-- What some tokens stand for, apart from the parentheses. -/
def skeleton (tokens : List Token) : List Lexeme :=
  (tokens.filter (!·.isParenthesis)).map Token.lexeme

theorem skeleton_append (tokens tokens' : List Token) :
    skeleton (tokens ++ tokens') = skeleton tokens ++ skeleton tokens' := by
  rw [skeleton, List.filter_append, List.map_append]
  rfl

theorem skeleton_parens (tokens : List Token) :
    skeleton ("(" :: tokens ++ [")"]) = skeleton tokens := by
  rw [skeleton_append]
  exact List.append_nil _

/-- Some tokens are what remains of others without some parentheses, up to how numbers are
written. -/
structure Condenses (shorter longer : List Token) : Prop where
  skeleton : skeleton shorter = skeleton longer
  sublist : (shorter.map Token.lexeme).Sublist (longer.map Token.lexeme)

namespace Condenses

variable {tokens tokens' shorter shorter' longer longer' : List Token} {needed needed' : Bool}

theorem refl (tokens : List Token) : Condenses tokens tokens := ⟨rfl, .refl _⟩

theorem length_le (condenses : Condenses shorter longer) : shorter.length ≤ longer.length := by
  have le := condenses.sublist.length_le
  rwa [List.length_map, List.length_map] at le

theorem append (first : Condenses shorter longer) (second : Condenses shorter' longer') :
    Condenses (shorter ++ shorter') (longer ++ longer') := by
  constructor
  · rw [skeleton_append, skeleton_append, first.skeleton, second.skeleton]
  · rw [List.map_append, List.map_append]
    exact first.sublist.append second.sublist

theorem cons (token : Token) (condenses : Condenses shorter longer) :
    Condenses (token :: shorter) (token :: longer) :=
  (refl [token]).append condenses

theorem self_parens (tokens : List Token) : Condenses tokens ("(" :: tokens ++ [")"]) :=
  ⟨(skeleton_parens tokens).symm, by
    rw [List.map_append, List.map_cons]
    exact (List.sublist_cons_self _ _).trans (List.sublist_append_left _ _)⟩

theorem trans (first : Condenses tokens shorter) (second : Condenses shorter longer) :
    Condenses tokens longer :=
  ⟨first.skeleton.trans second.skeleton, first.sublist.trans second.sublist⟩

/-- Where fewer parentheses are needed, no more remain. -/
theorem looser (fewer : needed' = true → needed = true)
    (condenses : Condenses (Tree.enclosed needed shorter) longer) :
    Condenses (Tree.enclosed needed' shorter) longer := by
  cases needed' with
  | true =>
      rw [fewer rfl] at condenses
      exact condenses
  | false =>
      cases needed with
      | true => exact (self_parens shorter).trans condenses
      | false => exact condenses

theorem bare (condenses : Condenses (Tree.enclosed needed shorter) longer) :
    Condenses shorter longer :=
  condenses.looser fun no => absurd no Bool.false_ne_true

/-- Parentheses in the input make room for those that the printer needs. -/
theorem parenthesize (condenses : Condenses shorter longer) (needed : Bool) :
    Condenses (Tree.enclosed needed shorter) ("(" :: longer ++ [")"]) := by
  cases needed with
  | true => exact (condenses.cons "(").append (.refl _)
  | false => exact condenses.trans (self_parens longer)

/-- A number is the same however it is written. -/
theorem literal {token token' : Token} (same : token.lexeme = token'.lexeme)
    (plain : token.isParenthesis = false) (plain' : token'.isParenthesis = false) :
    Condenses [token] [token'] := by
  have one : [token].map Token.lexeme = [token'].map Token.lexeme := by
    rw [List.map_singleton, List.map_singleton, same]
  constructor
  · simp [BlockLang.skeleton, plain, plain', same]
  · exact one ▸ .refl _

end Condenses

namespace Grammar

variable {keyword : Token}

/-- The canonical tokens of a value, printed as a symbol, condense some tokens. -/
def Symbol.Condensed (keyword : Token) : (symbol : Symbol) → symbol.Value → List Token → Prop
  | .phrase part => fun tree =>
      Condenses (Tree.enclosed (decide (tree.precedence < part.precedence)) (tree.tokens keyword))
  | .statement => fun tree => Condenses (tree.tokens keyword)
  | .statements => fun body => Condenses (Tree.tokensOfList keyword body)
  | .block => fun body => Condenses ("\x7b" :: Tree.tokensOfList keyword body ++ ["\x7d"])

namespace Symbol.Condensed

variable {phrase phrase' : Phrase} {tree left right : Tree} {tokens tokens' : List Token}

/-- A tree that binds as tight as a phrase is printed as that phrase without parentheses. -/
theorem of_le (le : phrase.precedence ≤ tree.precedence)
    (condenses : Condenses (tree.tokens keyword) tokens) :
    Symbol.Condensed keyword (.phrase phrase) tree tokens := by
  have bare : decide (tree.precedence < phrase.precedence) = false :=
    decide_eq_false (Nat.not_lt.mpr le)
  change Condenses (Tree.enclosed _ _) tokens
  rw [bare]
  exact condenses

theorem bare (condenses : Symbol.Condensed keyword (.phrase phrase) tree tokens) :
    Condenses (tree.tokens keyword) tokens :=
  Condenses.bare condenses

theorem widen (condenses : Symbol.Condensed keyword (.phrase phrase) tree tokens)
    (le : phrase'.precedence ≤ phrase.precedence) :
    Symbol.Condensed keyword (.phrase phrase') tree tokens :=
  Condenses.looser (Tree.looser_mono le) condenses

/-- Where the printer puts parentheses around an operand, the operand was derived in parentheses. -/
theorem binary {operator : Operator}
    (condensesLeft : Symbol.Condensed keyword (.phrase phrase) left tokens)
    (condensesRight : Symbol.Condensed keyword (.phrase phrase') right tokens')
    (le : operator.precedence ≤ phrase.precedence)
    (lt : operator.precedence < phrase'.precedence) :
    Condenses ((Tree.binary operator left right).tokens keyword)
      (tokens ++ operator.text :: tokens') := by
  have first := Condenses.looser (Tree.looser_of_needsGroup_left le) condensesLeft
  have second := Condenses.looser (Tree.looser_of_needsGroup_right lt) condensesRight
  rw [Tree.tokens]
  exact first.append (second.cons operator.text)

end Symbol.Condensed

/-- The canonical tokens of the value of a derivation condense its tokens. -/
theorem Derivation.condenses {symbol : Symbol} (derivation : Derivation keyword symbol) :
    symbol.Condensed keyword derivation.value derivation.tokens := by
  induction derivation with
  | integer token digits inRange =>
      have printed := toString_isInteger token.integerValue
      refine .of_le (Nat.le_refl _) (.literal ?_
        (Token.isParenthesis_of_shape printed (by decide))
        (Token.isParenthesis_of_shape digits (by decide)))
      rw [Token.lexeme_of_isInteger printed, Token.lexeme_of_isInteger digits,
        toString_integerValue]
  | float token digits finite =>
      have printed := Binary64.source_text_isFloat finite rfl
      refine .of_le (Nat.le_refl _) (.literal ?_
        (Token.isParenthesis_of_shape printed (by decide))
        (Token.isParenthesis_of_shape digits (by decide)))
      rw [Token.lexeme_of_isFloat printed, Token.lexeme_of_isFloat digits,
        Binary64.source_text_floatValue finite rfl]
  | reference token named => exact .of_le (Nat.le_refl _) (.refl _)
  | parenthesized inner ih => exact (Symbol.Condensed.bare ih).parenthesize _
  | comparison left operator relational right ihLeft ihRight =>
      have same := precedence_of_isRelational relational
      refine .of_le (Nat.le_of_eq same.symm) (Symbol.Condensed.binary ihLeft ihRight ?_ ?_)
      · rw [same]
        decide
      · rw [same]
        decide
  | group inner ih => exact (Symbol.Condensed.bare ih).parenthesize _
  | single level operand ih =>
      exact Symbol.Condensed.widen ih (Nat.le_of_lt level.precedence_lt_operand)
  | joined level left operator admitted right ihLeft ihRight =>
      have same := (level.admits_iff operator).mp admitted
      exact .of_le (Nat.le_of_eq same.symm) (Symbol.Condensed.binary ihLeft ihRight
        (Nat.le_of_eq same) (same ▸ level.precedence_lt_operand))
  | ifThen condition body ihCondition ihBody =>
      have head := ((Symbol.Condensed.bare ihCondition).cons "(").cons Keyword.ifWord.text
      have whole := head.append (Condenses.cons ")" ihBody)
      simpa [Tree.tokens, Symbol.Condensed, tokens, value] using whole
  | ifThenElse condition body alternative ihCondition ihBody ihAlternative =>
      have head := ((Symbol.Condensed.bare ihCondition).cons "(").cons Keyword.ifWord.text
      have first := head.append (Condenses.cons ")" ihBody)
      have whole := first.append (Condenses.cons Keyword.elseWord.text ihAlternative)
      simpa [Tree.tokens, Symbol.Condensed, tokens, value] using whole
  | loop condition body ihCondition ihBody =>
      have head := ((Symbol.Condensed.bare ihCondition).cons "(").cons Keyword.whileWord.text
      have whole := head.append (Condenses.cons ")" ihBody)
      simpa [Tree.tokens, Symbol.Condensed, tokens, value] using whole
  | nested body ih => exact ih
  | declaration first others named => exact .refl _
  | assignment target named value ih =>
      exact ((Symbol.Condensed.bare ih).cons Token.assign).cons target
  | empty => exact .refl _
  | cons first others ihFirst ihOthers =>
      exact Condenses.append ihFirst (Condenses.cons ";" ihOthers)
  | braces statements ih => exact (Condenses.cons "\x7b" ih).append (.refl _)

end Grammar

/-- The canonical tokens of a program that was read condense those that were read. -/
theorem condenses_of_parseProgram {settings : Settings} (fit : settings.keyword.Fit)
    {tokens : List Token} {tree : Tree} (parsed : parseProgram settings tokens = .ok tree) :
    Condenses (tree.renderedTokens settings.keyword) tokens := by
  rw [Tree.renderedTokens_of_isProgram fit (isProgram_of_parseProgram parsed).1]
  obtain ⟨derivation, rfl, rfl, -⟩ := Grammar.exists_derivation_of_parseProgram parsed
  exact derivation.condenses

/-- For a keyword that is fit for use, what was read and its canonical text differ only in
parentheses and in how numbers are written, and no input that is read as the same program is shorter
than the canonical text. -/
theorem renderedTokens_minimal {settings : Settings} (valid : settings.fault? = none)
    {tokens : List Token} {tree : Tree} (parsed : parseProgram settings tokens = .ok tree) :
    skeleton (tree.renderedTokens settings.keyword) = skeleton tokens ∧
      (tree.renderedTokens settings.keyword).length ≤ tokens.length ∧
      ∀ (maxDepth : Nat) (tokens' : List Token) (tree' : Tree),
        parseProgram { settings with maxDepth } tokens' = .ok tree' → tree.same tree' = true →
          (tree.renderedTokens settings.keyword).length ≤ tokens'.length := by
  have fit := settings.fault?_eq_none_iff_fit.mp valid
  have shape := (isProgram_of_parseProgram parsed).1
  have condenses := condenses_of_parseProgram fit parsed
  refine ⟨condenses.skeleton, condenses.length_le, fun maxDepth tokens' tree' parsed' agree => ?_⟩
  have equal := Tree.eq_of_same_of_isProgram shape (isProgram_of_parseProgram parsed').1 agree
  rw [equal]
  have fit' : ({ settings with maxDepth } : Settings).keyword.Fit := fit
  exact (condenses_of_parseProgram fit' parsed').length_le

/-- Of four pairs of parentheses that are read only the one around the sum is needed. -/
theorem renderedTokens_minimal_sum :
    ∃ tree,
      parseProgram {} ["\x7b", "x", "=", "(", "(", "y", "+", "(", "01", ")", ")", "*", "(", "z",
        ")", ")", ";", "\x7d"] = .ok tree ∧
      skeleton (tree.renderedTokens "DataType") =
        ["\x7b", "x", "=", "y", "+", "1", "*", "z", ";", "\x7d"].map Token.lexeme ∧
      ∀ (maxDepth : Nat) (tokens' : List Token) (tree' : Tree),
        parseProgram { maxDepth } tokens' = .ok tree' → tree.same tree' = true →
          (tree.renderedTokens "DataType").length ≤ tokens'.length := by
  have parsed : parseProgram {} ["\x7b", "x", "=", "(", "(", "y", "+", "(", "01", ")", ")", "*",
      "(", "z", ")", ")", ";", "\x7d"] = .ok (.block [.assign "x" (.binary .multiply
        (.binary .add (.var "y") (.int 1)) (.var "z"))]) := rfl
  have minimal := renderedTokens_minimal (by decide) parsed
  exact ⟨_, parsed, minimal.1.trans (by decide), minimal.2.2⟩

end BlockLang
