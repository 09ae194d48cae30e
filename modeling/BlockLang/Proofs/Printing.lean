import BlockLang.Proofs.Literal
import BlockLang.Proofs.Shape
import BlockLang.Proofs.Words
import BlockLang.Tree.Source

/-!
# The tokens of canonical text

The tokens of a tree are defined by recursion on it, without any layout. The words of its canonical
text are these tokens when the declaration keyword and the names in the tree are solid: every token
is written between blanks, so none runs together with another, and indentation adds none.
-/

namespace BlockLang.Tree

open Text (words Solid endsBlank beginsBlank indentation)

/-! ## Tokens -/

/-- Some names with commas between them. -/
def listed : List Token → List Token
  | [] => []
  | first :: others => first :: others.flatMap fun name => [",", name]

/-- Puts tokens in parentheses if they need them. -/
def enclosed (needed : Bool) (tokens : List Token) : List Token :=
  if needed then "(" :: tokens ++ [")"] else tokens

mutual

/-- The tokens of a tree. -/
def tokens (keyword : Token) : Tree → List Token
  | .block statements => "\x7b" :: tokensOfList keyword statements ++ ["\x7d"]
  | .ifThen condition body =>
      Keyword.ifWord.text :: "(" :: condition.tokens keyword ++
        ")" :: "\x7b" :: tokensOfList keyword body ++ ["\x7d"]
  | .ifThenElse condition body alternative =>
      Keyword.ifWord.text :: "(" :: condition.tokens keyword ++
        ")" :: "\x7b" :: tokensOfList keyword body ++ "\x7d" ::
          Keyword.elseWord.text :: "\x7b" :: tokensOfList keyword alternative ++ ["\x7d"]
  | .loop condition body =>
      Keyword.whileWord.text :: "(" :: condition.tokens keyword ++
        ")" :: "\x7b" :: tokensOfList keyword body ++ ["\x7d"]
  | .declare names => keyword :: listed names
  | .assign target value => target :: Token.assign :: value.tokens keyword
  | .binary operator left right =>
      enclosed (needsGroup operator .left left) (left.tokens keyword) ++
        operator.text :: enclosed (needsGroup operator .right right) (right.tokens keyword)
  | .int value => [toString value]
  | .float value => [NumberStyle.source.text value]
  | .var name => [name]

/-- The tokens of statements, each followed by a separator. -/
def tokensOfList (keyword : Token) : List Tree → List Token
  | [] => []
  | statement :: statements =>
      statement.tokens keyword ++ ";" :: tokensOfList keyword statements

end

mutual

/-- The names that occur in a tree: those declared, those assigned to and those read. -/
def names : Tree → List Token
  | .block statements => namesOfList statements
  | .ifThen condition body => condition.names ++ namesOfList body
  | .ifThenElse condition body alternative =>
      condition.names ++ namesOfList body ++ namesOfList alternative
  | .loop condition body => condition.names ++ namesOfList body
  | .declare names => names
  | .assign target value => target :: value.names
  | .binary _ left right => left.names ++ right.names
  | .int _ | .float _ => []
  | .var name => [name]

/-- The names that occur in a list of trees. -/
def namesOfList : List Tree → List Token
  | [] => []
  | statement :: statements => statement.names ++ namesOfList statements

end

/-! ## Solid texts -/

theorem solid_ofList {chars : List Char} (nonempty : chars ≠ [])
    (free : ∀ c ∈ chars, Text.isBlank c = false) : Solid (String.ofList chars) :=
  ⟨by simpa using nonempty, by simpa using free⟩

theorem free_of_isDigits {run : List Char} (digits : Token.isDigits run = true) :
    ∀ c ∈ run, Text.isBlank c = false := by
  rw [Token.isDigits, Bool.and_eq_true, List.all_eq_true] at digits
  intro c member
  have code := Token.codes_of_isDigit (digits.2 c member)
  exact Text.isBlank_of_code (by omega) (by omega)

/-- A sign before a solid text leaves it solid. -/
theorem solid_sign_append {text : String} (solid : Solid text) (negative : Bool) :
    Solid ((if negative then "-" else "") ++ text) := by
  cases negative with
  | false => simpa using solid
  | true =>
      refine ⟨by simp, fun c member => ?_⟩
      rw [if_pos rfl, String.toList_append, List.mem_append] at member
      rcases member with sign | member
      · have dash : c = '-' := by simpa using sign
        rw [dash]
        decide
      · exact solid.free c member

theorem solid_natText (number : Nat) : Solid (toString number) := by
  rw [Nat.toString_eq_ofList_toDigits]
  have digits := isDigits_toDigits number
  exact solid_ofList (by simp) (free_of_isDigits digits)

theorem solid_toString (value : Int) : Solid (toString value) := by
  cases value with
  | ofNat number => exact solid_natText number
  | negSucc number => exact solid_sign_append (solid_natText (number + 1)) true

theorem solid_floatText (value : Binary64) : Solid (NumberStyle.source.text value) := by
  unfold NumberStyle.text
  split
  next => exact .of_all (by decide) (by decide)
  next =>
    refine solid_sign_append ?_ value.negative
    split
    next => exact .of_all (by decide) (by decide)
    next =>
      rw [Binary64.source_magnitudeText]
      refine solid_ofList (by simp) fun c member => ?_
      rw [List.mem_append, List.mem_cons] at member
      rcases member with member | rfl | member
      · exact free_of_isDigits (Decimal.isDigits_wholeDigits _) c member
      · decide
      · exact free_of_isDigits (Decimal.isDigits_writtenFraction _) c member

/-! ## Layout -/

theorem words_grouped (needed : Bool) (text : String) :
    words (grouped needed text) = enclosed needed (words text) := by
  cases needed with
  | false => rfl
  | true =>
      rw [grouped, if_pos rfl, Text.words_append_of_begins _ (by decide),
        Text.words_append_of_ends (by decide)]
      rfl

theorem words_intercalate {names : List Token} (solid : ∀ name ∈ names, Solid name) :
    words (" , ".intercalate names) = listed names := by
  cases names with
  | nil => simp [listed]
  | cons first others =>
      induction others generalizing first with
      | nil =>
          rw [String.intercalate_singleton, Text.words_of_solid (solid first List.mem_cons_self)]
          rfl
      | cons second others ih =>
          have rest := ih second fun name member => solid name (List.mem_cons_of_mem _ member)
          rw [String.intercalate_cons_cons, Text.words_separated first (by decide),
            Text.words_of_solid (solid first List.mem_cons_self), rest]
          rfl

/-- The lines of statements end in a blank if there are any. -/
theorem endsBlank_sourceLines (keyword : Token) (level : Nat) {statements : List Tree}
    (nonempty : statements ≠ []) : endsBlank (sourceLines keyword level statements) = true := by
  induction statements with
  | nil => exact absurd rfl nonempty
  | cons statement statements ih =>
      rw [sourceLines]
      cases statements with
      | nil =>
          rw [sourceLines, String.append_empty]
          exact Text.endsBlank_append _ (by decide)
      | cons second others => exact Text.endsBlank_append _ (ih (List.cons_ne_nil _ _))

/-- There are no lines only where there are no statements. -/
theorem isEmpty_sourceLines (keyword : Token) (level : Nat) (statements : List Tree) :
    (sourceLines keyword level statements).isEmpty = statements.isEmpty := by
  cases statements with
  | nil => rfl
  | cons statement statements =>
      have ends := endsBlank_sourceLines keyword level (List.cons_ne_nil statement statements)
      rw [List.isEmpty_cons, Bool.eq_false_iff]
      intro empty
      rw [String.isEmpty_iff.mp empty] at ends
      exact absurd ends (by decide)

/-- Braces stand apart from what is between them. -/
theorem words_braced (keyword : Token) (level level' : Nat) (statements : List Tree) :
    words (braced level (sourceLines keyword level' statements)) =
      "\x7b" :: words (sourceLines keyword level' statements) ++ ["\x7d"] := by
  unfold braced
  cases statements with
  | nil =>
      change words "\x7b \x7d" = ["\x7b", "\x7d"]
      decide
  | cons statement statements =>
      have ends := endsBlank_sourceLines keyword level' (List.cons_ne_nil statement statements)
      rw [isEmpty_sourceLines, List.isEmpty_cons, if_neg (by decide), String.append_assoc,
        Text.words_append_of_ends
        (Text.endsBlank_append _ ends), Text.words_append_of_ends (by decide),
        Text.words_indentation_append]
      have opens : words "\x7b\n" = ["\x7b"] := by decide
      have closes : words "\x7d" = ["\x7d"] := by decide
      rw [opens, closes]
      rfl

/-- A condition stands apart from the parentheses around it. -/
theorem words_enclosed {before : String} (ends : endsBlank before = true) (inside after : String) :
    words (before ++ inside ++ " ) " ++ after) =
      words before ++ words inside ++ ")" :: words after := by
  have close : words " ) " = [")"] := by decide
  rw [Text.words_separated _ (by decide), Text.words_append_of_ends ends, close]
  simp

theorem words_operator (operator : Operator) (left right : String) :
    words (left ++ " " ++ operator.text ++ " " ++ right) =
      words left ++ operator.text :: words right := by
  have space : words " " = [] := by decide
  have symbol : words operator.text = [operator.text] := by cases operator <;> decide
  rw [Text.words_separated _ (by decide), Text.words_separated _ (by decide), space, symbol]
  simp

variable {keyword : Token}

mutual

theorem words_source (solid : Solid keyword) (level : Nat) :
    (tree : Tree) → (∀ name ∈ tree.names, Solid name) →
      words (tree.source keyword level) = tree.tokens keyword
  | .block statements, named => by
      rw [source, words_braced, words_sourceLines solid (level + 1) statements named, tokens]
  | .ifThen condition body, named => by
      simp only [names, List.mem_append, or_imp, forall_and] at named
      have head : words "if ( " = [Keyword.ifWord.text, "("] := by decide
      rw [source, words_enclosed (by decide), words_braced, head,
        words_source solid level condition named.1,
        words_sourceLines solid (level + 1) body named.2, tokens]
      simp
  | .ifThenElse condition body alternative, named => by
      simp only [names, List.mem_append, or_imp, forall_and] at named
      have head : words "if ( " = [Keyword.ifWord.text, "("] := by decide
      have other : words " else " = [Keyword.elseWord.text] := by decide
      rw [source, Text.words_separated _ (by decide), words_enclosed (by decide), words_braced,
        words_braced, head, other, words_source solid level condition named.1.1,
        words_sourceLines solid (level + 1) body named.1.2,
        words_sourceLines solid (level + 1) alternative named.2, tokens]
      simp
  | .loop condition body, named => by
      simp only [names, List.mem_append, or_imp, forall_and] at named
      have head : words "while ( " = [Keyword.whileWord.text, "("] := by decide
      rw [source, words_enclosed (by decide), words_braced, head,
        words_source solid level condition named.1,
        words_sourceLines solid (level + 1) body named.2, tokens]
      simp
  | .declare list, named => by
      have parts : words (" , ".intercalate list) = listed list := words_intercalate named
      have space : words " " = [] := by decide
      rw [source, Text.words_separated _ (by decide), parts, Text.words_of_solid solid, space,
        tokens]
      simp
  | .assign target value, named => by
      simp only [names, List.mem_cons, forall_eq_or_imp] at named
      have sign : words " = " = [Token.assign] := by decide
      rw [source, Text.words_separated _ (by decide), Text.words_of_solid named.1, sign,
        words_source solid level value named.2, tokens]
      simp
  | .binary operator left right, named => by
      simp only [names, List.mem_append, or_imp, forall_and] at named
      rw [source, words_operator, words_grouped, words_grouped,
        words_source solid level left named.1, words_source solid level right named.2, tokens]
  | .int value, _ => Text.words_of_solid (solid_toString value)
  | .float value, _ => Text.words_of_solid (solid_floatText value)
  | .var name, named => Text.words_of_solid (named name List.mem_cons_self)

theorem words_sourceLines (solid : Solid keyword) (level : Nat) :
    (statements : List Tree) → (∀ name ∈ namesOfList statements, Solid name) →
      words (sourceLines keyword level statements) = tokensOfList keyword statements
  | [], _ => by
      rw [sourceLines, Text.words_empty]
      rfl
  | statement :: statements, named => by
      simp only [namesOfList, List.mem_append, or_imp, forall_and] at named
      have separator : words " ;\n" = [";"] := by decide
      rw [sourceLines, Text.words_separated _ (by decide), Text.words_indentation_append,
        words_source solid level statement named.1, separator,
        words_sourceLines solid level statements named.2, tokensOfList]
      simp

end

/-- The words of the canonical text of a tree are its tokens. -/
theorem renderedTokens_eq_tokens (solid : Solid keyword) {tree : Tree}
    (named : ∀ name ∈ tree.names, Solid name) :
    tree.renderedTokens keyword = tree.tokens keyword :=
  words_source solid 0 tree named

end BlockLang.Tree
