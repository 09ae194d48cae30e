import BlockLang.CommandLine.Run
import BlockLang.Proofs.CanonicalText
import BlockLang.RoundTrip

/-!
# Canonical text needs no more levels

The tree of a derivation is grammatical, and its printed form nests no deeper than the derivation: a
tree that the printer puts in parentheses binds looser than the phrase it stands in, so parentheses
were derived there too. What was read under a limit is therefore read back from its canonical text
under the same limit.
-/

namespace BlockLang

namespace Tree

variable {keyword : Token}

/-- True of the trees that stand for numbers, or of those that stand for truth values. -/
def isOfKind (keyword : Token) (arithmetic : Bool) (tree : Tree) : Bool :=
  if arithmetic then tree.isArithmetic keyword else tree.isCondition keyword

/-- Parentheses that are not needed are not printed, so fewer needs nest no deeper. -/
theorem enclosedNesting_le {needed needed' : Bool} (fewer : needed = true → needed' = true)
    (nesting : Nat) : enclosedNesting needed nesting ≤ enclosedNesting needed' nesting := by
  cases needed with
  | false =>
      cases needed' with
      | false => exact Nat.le_refl _
      | true => exact Nat.le_succ _
  | true =>
      obtain rfl : needed' = true := fewer rfl
      exact Nat.le_refl _

theorem nesting_le_enclosedNesting (needed : Bool) (nesting : Nat) :
    nesting ≤ enclosedNesting needed nesting := by
  cases needed with
  | false => exact Nat.le_refl _
  | true => exact Nat.le_succ _

theorem enclosedNesting_le_succ (needed : Bool) (nesting : Nat) :
    enclosedNesting needed nesting ≤ nesting + 1 := by
  cases needed with
  | false => exact Nat.le_succ _
  | true => exact Nat.le_refl _

end Tree

namespace Grammar

variable {keyword : Token}

/-- The operators of a chain make trees of its kind. -/
theorem kind_of_admits {level : Level} {operator : Operator}
    (admits : level.admits operator = true) :
    operator.isArithmetic = (Phrase.chain level).isArithmetic ∧
      operator.isConnective = !(Phrase.chain level).isArithmetic := by
  cases level <;> cases operator <;>
    first
    | exact ⟨rfl, rfl⟩
    | exact absurd admits (by decide)

/-- A tree is of the kind of a phrase, and printed as that phrase it nests in some levels. -/
structure Fits (keyword : Token) (phrase : Phrase) (tree : Tree) (levels : Nat) : Prop where
  kind : tree.isOfKind keyword phrase.isArithmetic = true
  nesting :
    Tree.enclosedNesting (decide (tree.precedence < phrase.precedence)) tree.nesting ≤ levels

namespace Fits

variable {phrase phrase' : Phrase} {tree left right : Tree} {levels levels' : Nat}

/-- What fits a phrase fits a wider one of its kind. -/
theorem widen (fits : Fits keyword phrase tree levels)
    (kind : phrase'.isArithmetic = phrase.isArithmetic)
    (le : phrase'.precedence ≤ phrase.precedence) :
    Fits keyword phrase' tree levels := by
  exact ⟨kind ▸ fits.kind,
    Nat.le_trans (Tree.enclosedNesting_le (Tree.looser_mono le) _) fits.nesting⟩

theorem nesting_le (fits : Fits keyword phrase tree levels) : tree.nesting ≤ levels :=
  Nat.le_trans (Tree.nesting_le_enclosedNesting _ _) fits.nesting

/-- Parentheses make room for those that the printer needs. -/
theorem parenthesize {arithmetic : Bool} (fits : Fits keyword (.widest arithmetic) tree levels) :
    Fits keyword (.tightest arithmetic) tree (levels + 1) := by
  constructor
  · have kind := fits.kind
    rw [Prints.isArithmetic_widest] at kind
    rw [Prints.isArithmetic_tightest]
    exact kind
  · exact Nat.le_trans (Tree.enclosedNesting_le_succ _ _) (Nat.succ_le_succ fits.nesting_le)

/-- Where the printer puts parentheses around an operand, the operand was derived in parentheses. -/
theorem nesting_binary_le {operator : Operator} (fitsLeft : Fits keyword phrase left levels)
    (fitsRight : Fits keyword phrase' right levels') (le : operator.precedence ≤ phrase.precedence)
    (lt : operator.precedence < phrase'.precedence) :
    (Tree.binary operator left right).nesting ≤ max levels levels' := by
  have nestsLeft : Tree.enclosedNesting (Tree.needsGroup operator .left left) left.nesting ≤
      levels :=
    Nat.le_trans (Tree.enclosedNesting_le (Tree.looser_of_needsGroup_left le) _) fitsLeft.nesting
  have nestsRight : Tree.enclosedNesting (Tree.needsGroup operator .right right) right.nesting ≤
      levels' :=
    Nat.le_trans (Tree.enclosedNesting_le (Tree.looser_of_needsGroup_right lt) _) fitsRight.nesting
  rw [Tree.nesting]
  exact Nat.max_le.mpr ⟨Nat.le_trans nestsLeft (Nat.le_max_left _ _),
    Nat.le_trans nestsRight (Nat.le_max_right _ _)⟩

/-- A tree that binds as tight as a phrase is printed as that phrase without parentheses. -/
theorem of_precedence_eq (kind : tree.isOfKind keyword phrase.isArithmetic = true)
    (same : tree.precedence = phrase.precedence) (nests : tree.nesting ≤ levels) :
    Fits keyword phrase tree levels := by
  refine ⟨kind, ?_⟩
  rw [same, decide_eq_false (Nat.lt_irrefl _)]
  exact nests

theorem binary {level : Level} {operator : Operator} (admits : level.admits operator = true)
    (fitsLeft : Fits keyword (.chain level) left levels)
    (fitsRight : Fits keyword level.operand right levels') :
    Fits keyword (.chain level) (.binary operator left right) (max levels levels') := by
  have same := (level.admits_iff operator).mp admits
  refine of_precedence_eq ?_ same (fitsLeft.nesting_binary_le fitsRight (Nat.le_of_eq same)
    (same ▸ level.precedence_lt_operand))
  have kindLeft := fitsLeft.kind
  have kindRight := fitsRight.kind
  rw [Phrase.isArithmetic_operand] at kindRight
  obtain ⟨arithmetic, connective⟩ := kind_of_admits admits
  cases kind : (Phrase.chain level).isArithmetic with
  | true =>
      rw [kind] at kindLeft kindRight arithmetic
      change left.isArithmetic keyword = true at kindLeft
      change right.isArithmetic keyword = true at kindRight
      change Tree.isArithmetic keyword (.binary operator left right) = true
      rw [Tree.isArithmetic, arithmetic, kindLeft, kindRight]
      rfl
  | false =>
      rw [kind] at kindLeft kindRight connective
      change left.isCondition keyword = true at kindLeft
      change right.isCondition keyword = true at kindRight
      change Tree.isCondition keyword (.binary operator left right) = true
      rw [Tree.isCondition, connective, kindLeft, kindRight]
      exact Bool.or_true _

theorem comparison {operator : Operator} (relational : operator.isRelational = true)
    (fitsLeft : Fits keyword (.chain .sum) left levels)
    (fitsRight : Fits keyword (.chain .sum) right levels') :
    Fits keyword .atom (.binary operator left right) (max levels levels') := by
  have same := precedence_of_isRelational relational
  have kindLeft : left.isArithmetic keyword = true := fitsLeft.kind
  have kindRight : right.isArithmetic keyword = true := fitsRight.kind
  refine of_precedence_eq ?_ same (fitsLeft.nesting_binary_le fitsRight ?_ ?_)
  · change Tree.isCondition keyword (.binary operator left right) = true
    rw [Tree.isCondition, relational, kindLeft, kindRight]
    rfl
  · rw [same]
    decide
  · rw [same]
    decide

end Fits

/-- A value of a symbol is grammatical, and printed as the symbol it nests in some levels. -/
def Symbol.Fits (keyword : Token) : (symbol : Symbol) → symbol.Value → Nat → Prop
  | .phrase part => Grammar.Fits keyword part
  | .statement => fun tree levels => tree.isStatement keyword = true ∧ tree.nesting ≤ levels
  | .statements => fun body levels =>
      Tree.areStatements keyword body = true ∧ Tree.nestingOfList body ≤ levels
  | .block => fun body levels =>
      Tree.areStatements keyword body = true ∧ Tree.nestingOfList body + 1 ≤ levels

/-- The tree of a condition is one, however it is printed. -/
theorem Fits.isCondition {tree : Tree} {levels : Nat}
    (fits : Fits keyword (.chain .disjunction) tree levels) : tree.isCondition keyword = true :=
  fits.kind

theorem Fits.isArithmetic {tree : Tree} {levels : Nat}
    (fits : Fits keyword (.chain .sum) tree levels) : tree.isArithmetic keyword = true :=
  fits.kind

namespace Symbol

variable {keyword : Token} {test : Tree} {body alternative : List Tree}
  {levels levels' levels'' : Nat}

theorem fits_ifThen (fitsTest : condition.Fits keyword test levels)
    (fitsBody : block.Fits keyword body levels') :
    statement.Fits keyword (.ifThen test body) (max levels levels' + 1) := by
  obtain ⟨shape, nests⟩ := fitsBody
  have nestsTest := Grammar.Fits.nesting_le fitsTest
  constructor
  · rw [Tree.isStatement, Fits.isCondition fitsTest, shape]
    rfl
  · rw [Tree.nesting]
    omega

theorem fits_ifThenElse (fitsTest : condition.Fits keyword test levels)
    (fitsBody : block.Fits keyword body levels')
    (fitsAlternative : block.Fits keyword alternative levels'') :
    statement.Fits keyword (.ifThenElse test body alternative)
      (max levels (max levels' levels'') + 1) := by
  obtain ⟨shape, nests⟩ := fitsBody
  obtain ⟨shape', nests'⟩ := fitsAlternative
  have nestsTest := Grammar.Fits.nesting_le fitsTest
  constructor
  · rw [Tree.isStatement, Fits.isCondition fitsTest, shape, shape']
    rfl
  · rw [Tree.nesting]
    omega

theorem fits_loop (fitsTest : condition.Fits keyword test levels)
    (fitsBody : block.Fits keyword body levels') :
    statement.Fits keyword (.loop test body) (max levels levels' + 1) := by
  obtain ⟨shape, nests⟩ := fitsBody
  have nestsTest := Grammar.Fits.nesting_le fitsTest
  constructor
  · rw [Tree.isStatement, Fits.isCondition fitsTest, shape]
    rfl
  · rw [Tree.nesting]
    omega

theorem fits_cons {tree : Tree} (fitsFirst : statement.Fits keyword tree levels)
    (fitsOthers : statements.Fits keyword body levels') :
    statements.Fits keyword (tree :: body) (max levels levels') := by
  obtain ⟨shape, nests⟩ := fitsFirst
  obtain ⟨shape', nests'⟩ := fitsOthers
  constructor
  · rw [Tree.areStatements, shape, shape']
    rfl
  · rw [Tree.nestingOfList]
    omega

end Symbol

/-- The value of a derivation is grammatical and nests no deeper than the derivation. -/
theorem Derivation.fits {symbol : Symbol} (derivation : Derivation keyword symbol) :
    symbol.Fits keyword derivation.value derivation.depth := by
  induction derivation with
  | integer token digits inRange =>
      refine Fits.of_precedence_eq ?_ rfl (Nat.le_refl _)
      have bounded : (token.integerValue : Int) ≤ largestInteger := Int.ofNat_le.mpr inRange
      change (decide (0 ≤ (token.integerValue : Int)) &&
        decide ((token.integerValue : Int) ≤ largestInteger)) = true
      rw [decide_eq_true (Int.natCast_nonneg _), decide_eq_true bounded]
      rfl
  | float token digits finite =>
      refine Fits.of_precedence_eq ?_ rfl (Nat.le_refl _)
      change (token.floatValue.isFinite && !token.floatValue.negative) = true
      rw [finite]
      rfl
  | reference token named => exact Fits.of_precedence_eq named rfl (Nat.le_refl _)
  | parenthesized inner ih =>
      have inside : Fits keyword (.widest true) inner.value inner.depth := ih
      exact inside.parenthesize
  | comparison left operator relational right ihLeft ihRight =>
      exact Fits.comparison relational ihLeft ihRight
  | group inner ih =>
      have inside : Fits keyword (.widest false) inner.value inner.depth := ih
      exact inside.parenthesize
  | single level operand ih =>
      exact Fits.widen ih (Phrase.isArithmetic_operand level).symm
        (Nat.le_of_lt level.precedence_lt_operand)
  | joined level left operator admitted right ihLeft ihRight =>
      exact Fits.binary admitted ihLeft ihRight
  | ifThen condition body ihCondition ihBody => exact Symbol.fits_ifThen ihCondition ihBody
  | ifThenElse condition body alternative ihCondition ihBody ihAlternative =>
      exact Symbol.fits_ifThenElse ihCondition ihBody ihAlternative
  | loop condition body ihCondition ihBody => exact Symbol.fits_loop ihCondition ihBody
  | nested body ih => exact ⟨ih.1, Nat.succ_le_succ ih.2⟩
  | declaration first others named =>
      refine ⟨?_, Nat.le_refl _⟩
      rw [Derivation.value, Tree.isStatement, List.all_eq_true.mpr named]
      rfl
  | assignment target named value ih =>
      refine ⟨?_, Nat.succ_le_succ (Fits.nesting_le ih)⟩
      rw [Derivation.value, Tree.isStatement, named, Fits.isArithmetic ih]
      rfl
  | empty => exact ⟨rfl, Nat.le_refl _⟩
  | cons first others ihFirst ihOthers => exact Symbol.fits_cons ihFirst ihOthers
  | braces statements ih => exact ⟨ih.1, Nat.succ_le_succ ih.2⟩

end Grammar

/-- What is read as a program is grammatical and its printed form is within the limit. -/
theorem isProgram_of_parseProgram {settings : Settings} {tokens : List Token} {tree : Tree}
    (parsed : parseProgram settings tokens = .ok tree) :
    tree.isProgram settings.keyword = true ∧ tree.programNesting ≤ settings.maxDepth := by
  obtain ⟨derivation, -, rfl, fits⟩ := Grammar.exists_derivation_of_parseProgram parsed
  obtain ⟨shape, nests⟩ := derivation.fits
  exact ⟨shape, Nat.le_trans nests fits⟩

/-! ## Reading canonical text again -/

/-- A line break behind a text adds no word. -/
theorem Text.words_append_break (text : String) : Text.words (text ++ "\n") = Text.words text := by
  have nothing : Text.words "\n" = [] := by decide
  rw [Text.words_append_of_begins _ (by decide), nothing, List.append_nil]

/-- The limits that admit the printed form of a grammatical program are those under which its
canonical text is read. -/
theorem parseProgram_renderedTokens_iff {settings : Settings} (valid : settings.fault? = none)
    {tree : Tree} (shape : tree.isProgram settings.keyword = true) :
    parseProgram settings (tree.renderedTokens settings.keyword) = .ok tree ↔
      tree.programNesting ≤ settings.maxDepth := by
  constructor
  · intro parsed
    exact (isProgram_of_parseProgram parsed).2
  · intro nests
    exact Tree.parseProgram_of_isProgram (settings.fault?_eq_none_iff_fit.mp valid) shape nests

theorem reparse_of_parseProgram {settings : Settings} (valid : settings.fault? = none)
    {tokens : List Token} {tree : Tree} (parsed : parseProgram settings tokens = .ok tree) :
    parseProgram settings (tree.renderedTokens settings.keyword) = .ok tree := by
  obtain ⟨shape, nests⟩ := isProgram_of_parseProgram parsed
  exact (parseProgram_renderedTokens_iff valid shape).mpr nests

/-- A program that could be read is reread as the same tree, whose canonical text is the same. -/
theorem reread_of_roundTrip {settings : Settings} (valid : settings.fault? = none)
    {tokens : List Token} {trip : RoundTrip} (read : roundTrip settings tokens = .ok trip) :
    trip.reread = .ok { equal := true, stable := true } := by
  cases parsed : parseProgram settings tokens with
  | error error =>
      rw [roundTrip, parsed] at read
      cases read
  | ok tree =>
      rw [roundTrip, parsed] at read
      cases read
      have same := Tree.same_self_of_isProgram (isProgram_of_parseProgram parsed).1
      rw [RoundTrip.ofTree, reparse_of_parseProgram valid parsed]
      simp [Except.map, same]

namespace Invocation

variable {invocation : Invocation} {file text : String} {tree : Tree}

/-- What a run prints of a program that it can read. -/
theorem run_of_parseProgram (valid : invocation.settings.fault? = none)
    (given : invocation.file = some file) (printing : invocation.canonical = true)
    (reading : invocation.listing = false)
    (parsed : parseProgram invocation.settings (Text.words text) = .ok tree) (input : List UInt8) :
    invocation.run (.ok text) input =
      ⟨0, { out := tree.render invocation.settings.keyword ++ "\n" }⟩ := by
  simp [run, valid, given, runFile, runText, reading, parsed, treeText, printing]

/-- A run that prints what it has read prints the same again when it is given its own output. -/
theorem run_of_own_output (valid : invocation.settings.fault? = none)
    (given : invocation.file = some file) (printing : invocation.canonical = true)
    (reading : invocation.listing = false)
    (parsed : parseProgram invocation.settings (Text.words text) = .ok tree) (input : List UInt8) :
    invocation.run (.ok (invocation.run (.ok text) input).transcript.out) input =
      invocation.run (.ok text) input := by
  have again : parseProgram invocation.settings
      (Text.words (tree.render invocation.settings.keyword ++ "\n")) = .ok tree := by
    rw [Text.words_append_break]
    exact reparse_of_parseProgram valid parsed
  rw [run_of_parseProgram valid given printing reading parsed]
  exact run_of_parseProgram valid given printing reading again input

end Invocation

/-- What is read under a limit is read back from its canonical text under the same limit, and the
canonical text of that is the same. So a run that prints canonical text does not change its own
output. -/
theorem canonicalText_stable {settings : Settings} (valid : settings.fault? = none)
    {tokens : List Token} {tree : Tree} (parsed : parseProgram settings tokens = .ok tree) :
    (∃ again, parseProgram settings (tree.renderedTokens settings.keyword) = .ok again ∧
      tree.same again = true ∧
      again.render settings.keyword = tree.render settings.keyword) ∧
    ∀ (invocation : Invocation) (file text : String) (input : List UInt8),
      invocation.settings = settings → invocation.file = some file →
      invocation.canonical = true → invocation.listing = false → Text.words text = tokens →
        invocation.run (.ok (invocation.run (.ok text) input).transcript.out) input =
          invocation.run (.ok text) input := by
  refine ⟨⟨tree, reparse_of_parseProgram valid parsed, ?_, rfl⟩, ?_⟩
  · exact Tree.same_self_of_isProgram (isProgram_of_parseProgram parsed).1
  · rintro invocation file text input rfl given printing reading rfl
    exact Invocation.run_of_own_output valid given printing reading parsed input

/-- The parentheses around the difference are needed and stand right at the limit; those around the
variable are not printed again. -/
theorem canonicalText_stable_at_limit :
    ∃ tree,
      parseProgram ⟨"let", 3⟩ ["\x7b", "x", "=", "y", "*", "(", "1", "-", "2", ")", "+", "(", "z",
        ")", ";", "\x7d"] = .ok tree ∧
      ∃ again, parseProgram ⟨"let", 3⟩ (tree.renderedTokens "let") = .ok again ∧
        tree.same again = true ∧ again.render "let" = tree.render "let" := by
  have parsed : parseProgram ⟨"let", 3⟩ ["\x7b", "x", "=", "y", "*", "(", "1", "-", "2", ")", "+",
      "(", "z", ")", ";", "\x7d"] = .ok (.block [.assign "x" (.binary .add (.binary .multiply
        (.var "y") (.binary .subtract (.int 1) (.int 2))) (.var "z"))]) := rfl
  exact ⟨_, parsed, (canonicalText_stable (by decide) parsed).1⟩

end BlockLang
