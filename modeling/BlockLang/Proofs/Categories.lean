import BlockLang.Proofs.ErrorPosition

/-!
# Categories and operands

The listing of tokens and the grammar tell tokens apart by their own tests in their own order. Under
a keyword that is fit for use at most one test holds of a token, so neither order matters, and the
category of a token decides what a factor makes of it. Only a parenthesis leaves that open: it
stands for whatever is read inside it. A token of no category stands in no derivation, so no program
is read through it.
-/

namespace BlockLang

namespace Token

variable {keyword token : Token}

/-- The test for a category. -/
def Category.admits (keyword token : Token) : Category → Bool
  | .keyword => token.isKeyword keyword
  | .identifier => token.isName keyword
  | .integerLiteral => token.isInteger
  | .floatLiteral => token.isFloat
  | .operator => token.isOperator
  | .punctuation => token.isPunctuation
  | .unknown => false

/-- The categories that have a test. -/
def Category.tested : List Category :=
  [.keyword, .integerLiteral, .floatLiteral, .identifier, .operator, .punctuation]

/-! ## At most one test holds -/

/-- What is no identifier is no keyword either. -/
theorem isKeyword_of_not_isIdentifier (fit : keyword.Fit) (shape : token.isIdentifier = false) :
    token.isKeyword keyword = false := by
  have other : token ≠ keyword := (ne_of_shape fit.1 shape).symm
  cases found : Keyword.ofText? token with
  | none => simp [isKeyword, found, other]
  | some word =>
      rw [Keyword.ofText?_eq_some_iff.mp found] at shape
      cases word <;> exact absurd shape (by decide)

/-- What is no word and no number has the category that it has as an operator or as punctuation. -/
theorem category_of_mark (fit : keyword.Fit) (identifier : token.isIdentifier = false)
    (integer : token.isInteger = false) (float : token.isFloat = false) :
    token.category keyword =
      if token.isOperator then .operator else if token.isPunctuation then .punctuation
      else .unknown := by
  simp [category, isKeyword_of_not_isIdentifier fit identifier, identifier, integer, float]

theorem category_of_isOperator (fit : keyword.Fit) (operator : token.isOperator = true) :
    token.category keyword = .operator := by
  have marks : token.isIdentifier = false ∧ token.isInteger = false ∧ token.isFloat = false := by
    rw [isOperator, Bool.or_eq_true, beq_iff_eq, Option.isSome_iff_exists] at operator
    rcases operator with rfl | ⟨operator, found⟩
    · decide
    · rw [Operator.ofText?_eq_some_iff.mp found]
      cases operator <;> decide
  rw [category_of_mark fit marks.1 marks.2.1 marks.2.2, if_pos operator]

theorem category_of_isPunctuation (fit : keyword.Fit) (mark : token.isPunctuation = true) :
    token.category keyword = .punctuation := by
  have marks : token.isIdentifier = false ∧ token.isInteger = false ∧ token.isFloat = false ∧
      token.isOperator = false := by
    have listed : ∀ token ∈ punctuation, token.isIdentifier = false ∧ token.isInteger = false ∧
        token.isFloat = false ∧ token.isOperator = false := by decide
    exact listed token (List.contains_iff_mem.mp mark)
  rw [category_of_mark fit marks.1 marks.2.1 marks.2.2.1, if_neg (by simp [marks.2.2.2]),
    if_pos mark]

/-- A token has the category whose test it passes, whatever the other tests are. -/
theorem category_of_admits (fit : keyword.Fit) {category : Category}
    (admits : category.admits keyword token = true) : token.category keyword = category := by
  have word (shape : token.isIdentifier = false) : token.isKeyword keyword = false :=
    isKeyword_of_not_isIdentifier fit shape
  cases category with
  | keyword =>
      have passes : token.isKeyword keyword = true := admits
      rw [Token.category, if_pos passes]
  | integerLiteral =>
      have digits : token.isInteger = true := admits
      have shape : token.isIdentifier = false := by
        rw [Bool.eq_false_iff]
        intro identifier
        rw [isInteger_of_isIdentifier identifier] at digits
        cases digits
      simp [Token.category, word shape, digits]
  | floatLiteral =>
      have digits : token.isFloat = true := admits
      have shape : token.isIdentifier = false := by
        rw [Bool.eq_false_iff]
        intro identifier
        rw [isFloat_of_isIdentifier identifier] at digits
        cases digits
      simp [Token.category, word shape, isInteger_of_isFloat digits, digits]
  | identifier =>
      have named : token.isIdentifier = true ∧ token.isKeyword keyword = false := by
        simpa [Category.admits, isName] using admits
      simp [Token.category, named.2, isInteger_of_isIdentifier named.1,
        isFloat_of_isIdentifier named.1, named.1]
  | operator => exact category_of_isOperator fit admits
  | punctuation => exact category_of_isPunctuation fit admits
  | unknown => cases admits

/-- A token passes the test for its category, if there is one. -/
theorem admits_category (known : token.category keyword ≠ .unknown) :
    (token.category keyword).admits keyword token = true := by
  unfold Token.category at known ⊢
  split
  next passes => exact passes
  next free =>
    split
    next digits => exact digits
    next =>
      split
      next digits => exact digits
      next =>
        split
        next shape => simp [Category.admits, isName, shape, free]
        next =>
          split
          next operator => exact operator
          next =>
            split
            next mark => exact mark
            next => simp_all

/-- In whatever order the tests are made, the first that holds tells the category. -/
theorem find?_tested (fit : keyword.Fit) {order : List Category} (all : order.Perm Category.tested) :
    (order.find? (·.admits keyword token)).getD .unknown = token.category keyword := by
  cases found : order.find? (·.admits keyword token) with
  | some category =>
      have admits : category.admits keyword token = true := List.find?_some found
      exact (category_of_admits fit admits).symm
  | none =>
      have listed (category : Category) (tested : category ≠ .unknown) : category ∈ order := by
        rw [all.mem_iff]
        cases category with
        | unknown => exact absurd rfl tested
        | _ => decide
      by_cases known : token.category keyword = .unknown
      · exact known.symm
      · exact absurd (admits_category known) (List.find?_eq_none.mp found _ (listed _ known))

end Token

namespace Grammar

variable {settings : Settings} {keyword token : Token} {start finish : State} {levels : Nat}

/-! ## The order of the tests in a factor -/

theorem run_factorOver (group : RuleM Tree) :
    (factorOver settings group).run start =
      if start.cursor.peek = some "(" then group.run start
      else (operand settings).run start := by
  rw [factorOver, EStateM.run_bind, run_check]
  by_cases opens : start.cursor.peek = some "(" <;> simp [opens, Cursor.check]

/-- What is no parenthesis is read as an operand. -/
theorem run_factorOver_of_front (group : RuleM Tree) (front : start.cursor.peek = some token)
    (closed : token ≠ "(") :
    (factorOver settings group).run start =
      match Tree.ofOperand token settings.keyword with
      | .ok tree => .ok tree start.advanced
      | .error cause => .error (errorAt start.cursor .unexpectedToken cause) start := by
  rw [run_factorOver, front, if_neg (by simpa using closed), operand, EStateM.run_bind, run_peek,
    front]
  dsimp only
  cases Tree.ofOperand token settings.keyword <;> rfl

/-- What a factor can begin with. -/
inductive Opening where
  | group | integer | float | name
  deriving DecidableEq, Repr

namespace Opening

def all : List Opening := [.group, .integer, .float, .name]

/-- The test for an opening. -/
def admits (keyword token : Token) : Opening → Bool
  | .group => token == "("
  | .integer => token.isInteger
  | .float => token.isFloat
  | .name => token.isName keyword

/-- What is done with a front token that an opening admits. -/
def rule (group : RuleM Tree) (token : Token) : Opening → RuleM Tree
  | .group => group
  | .integer =>
      if token.integerValue ≤ largestInteger then do
        advance
        return .int token.integerValue
      else fail .unexpectedToken (.integerOutOfRange token)
  | .float =>
      if token.floatValue.isFinite then do
        advance
        return .float token.floatValue
      else fail .unexpectedToken (.floatOutOfRange token)
  | .name => do
      advance
      return .var token

theorem mem_all (opening : Opening) : opening ∈ all := by
  cases opening <;> decide

/-- Whichever opening admits the front token, a factor does what it says. -/
theorem run_rule {opening : Opening} (group : RuleM Tree) (front : start.cursor.peek = some token)
    (admits : opening.admits settings.keyword token = true) :
    (opening.rule group token).run start = (factorOver settings group).run start := by
  cases opening with
  | group =>
      have opens : token = "(" := beq_iff_eq.mp admits
      rw [run_factorOver, front, opens, if_pos rfl, rule]
  | integer =>
      have digits : token.isInteger = true := admits
      rw [run_factorOver_of_front group front (Token.ne_of_shape digits (by decide)), rule,
        Tree.ofOperand, if_pos digits]
      split <;> rfl
  | float =>
      have digits : token.isFloat = true := admits
      have whole : ¬ token.isInteger = true := by simp [Token.isInteger_of_isFloat digits]
      rw [run_factorOver_of_front group front (Token.ne_of_shape digits (by decide)), rule,
        Tree.ofOperand, if_neg whole, if_pos digits]
      split <;> rfl
  | name =>
      have named : token.isName settings.keyword = true := admits
      have shape := Token.isIdentifier_of_isName named
      have whole : ¬ token.isInteger = true := by simp [Token.isInteger_of_isIdentifier shape]
      have point : ¬ token.isFloat = true := by simp [Token.isFloat_of_isIdentifier shape]
      rw [run_factorOver_of_front group front (Token.ne_of_shape shape (by decide)), rule,
        Tree.ofOperand, if_neg whole, if_neg point, if_pos named]
      rfl

end Opening

/-- A factor whose tests are made in the given order. -/
def factorInOrder (order : List Opening) (settings : Settings) (group : RuleM Tree) :
    RuleM Tree := do
  match ← peek with
  | none => refuse .unexpectedToken .expression
  | some token =>
      match order.find? (·.admits settings.keyword token) with
      | some opening => opening.rule group token
      | none => fail .unexpectedToken (.expected .operand)

/-- The tests of a factor can be made in any order. -/
theorem factorInOrder_eq (settings : Settings) {order : List Opening}
    (all : order.Perm Opening.all) (group : RuleM Tree) :
    factorInOrder order settings group = factorOver settings group := by
  funext start
  change (factorInOrder order settings group).run start = (factorOver settings group).run start
  rw [factorInOrder, EStateM.run_bind, run_peek]
  cases front : start.cursor.peek with
  | none =>
      rw [run_factorOver, front, if_neg (by simp), operand, EStateM.run_bind, run_peek, front]
  | some token =>
      dsimp only
      cases found : order.find? (·.admits settings.keyword token) with
      | some opening => exact Opening.run_rule group front (List.find?_some found)
      | none =>
          have fails (opening : Opening) : ¬ opening.admits settings.keyword token = true :=
            List.find?_eq_none.mp found opening (all.mem_iff.mpr opening.mem_all)
          have closed : token ≠ "(" := fun opens => fails .group (beq_iff_eq.mpr opens)
          have refused : Tree.ofOperand token settings.keyword = .error (.expected .operand) := by
            unfold Tree.ofOperand
            exact (if_neg (fails .integer)).trans
              ((if_neg (fails .float)).trans (if_neg (fails .name)))
          rw [run_factorOver_of_front group front closed, refused]
          rfl

/-! ## What the category of the front token tells of a factor -/

/-- A value that is no operation is derived from one token in any number of parentheses. -/
def Symbol.Wrapped (keyword : Token) : (symbol : Symbol) → symbol.Value → List Token → Prop
  | .phrase _ => fun tree tokens =>
      (∀ operator left right, tree ≠ .binary operator left right) →
        ∃ count token, Tree.ofOperand token keyword = .ok tree ∧
          tokens = List.replicate count "(" ++ token :: List.replicate count ")"
  | .statement | .statements | .block => fun _ _ => True

theorem Symbol.Wrapped.enclosed {phrase phrase' : Phrase} {tree : Tree} {tokens : List Token}
    (wrapped : Symbol.Wrapped keyword (.phrase phrase) tree tokens) :
    Symbol.Wrapped keyword (.phrase phrase') tree ("(" :: tokens ++ [")"]) := by
  intro single
  obtain ⟨count, token, read, rfl⟩ := wrapped single
  refine ⟨count + 1, token, read, ?_⟩
  rw [List.replicate_succ, List.replicate_succ' (n := count) (a := ")")]
  simp

theorem Derivation.wrapped {symbol : Symbol} (derivation : Derivation keyword symbol) :
    symbol.Wrapped keyword derivation.value derivation.tokens := by
  induction derivation with
  | integer token digits inRange =>
      exact fun _ => ⟨0, token, Tree.ofOperand_eq_ok_iff.mpr (.inl ⟨digits, inRange, rfl⟩), rfl⟩
  | float token digits finite =>
      exact fun _ =>
        ⟨0, token, Tree.ofOperand_eq_ok_iff.mpr (.inr (.inl ⟨digits, finite, rfl⟩)), rfl⟩
  | reference token named =>
      exact fun _ => ⟨0, token, Tree.ofOperand_eq_ok_iff.mpr (.inr (.inr ⟨named, rfl⟩)), rfl⟩
  | parenthesized inner ih => exact ih.enclosed
  | group inner ih => exact ih.enclosed
  | single level operand ih => exact ih
  | comparison left operator relational right => exact fun single => absurd rfl (single _ _ _)
  | joined level left operator admitted right => exact fun single => absurd rfl (single _ _ _)
  | _ => trivial

/-- A factor that is no operation is read from one token in any number of parentheses. -/
theorem wrapped_of_factor {tree : Tree} (run : (factor settings levels).run start = .ok tree finish)
    (single : ∀ operator left right, tree ≠ .binary operator left right) :
    ∃ count token, Tree.ofOperand token settings.keyword = .ok tree ∧
      start.cursor.Reads (List.replicate count "(" ++ token :: List.replicate count ")")
        finish.cursor := by
  obtain ⟨tokens, reads, derivation, rfl, rfl, -⟩ := (factor_sound settings levels start).ok run
  obtain ⟨count, token, read, split⟩ := derivation.wrapped single
  exact ⟨count, token, read, split ▸ reads⟩

/-- A token of a category is read in as many parentheses as close behind it. -/
def Holds (keyword : Token) (category : Token.Category) (start finish : Cursor) : Prop :=
  ∃ (count : Nat) (token : Token), token.category keyword = category ∧
    start.Reads (List.replicate count "(" ++ token :: List.replicate count ")") finish

/-- The first of the tokens that are read is the one in parentheses or a parenthesis. -/
theorem front_of_reads {start finish : Cursor} {count : Nat} {literal : Token}
    (front : start.peek = some token)
    (reads : start.Reads (List.replicate count "(" ++ literal :: List.replicate count ")") finish) :
    token = literal ∨ token = "(" := by
  have head := congrArg List.head? reads.rest
  rw [Cursor.head?_rest, front] at head
  cases count with
  | zero => exact .inl (by simpa using head)
  | succ count => exact .inr (by simpa [List.replicate_succ] using head)

/-- What the category of the front token tells of a factor. -/
structure Told (settings : Settings) (levels : Nat) (start : State) (token : Token) : Prop where
  integer : ∀ value finish, (factor settings levels).run start = .ok (.int value) finish →
    (token.category settings.keyword = .integerLiteral ∨ token = "(") ∧
      Holds settings.keyword .integerLiteral start.cursor finish.cursor
  float : ∀ value finish, (factor settings levels).run start = .ok (.float value) finish →
    (token.category settings.keyword = .floatLiteral ∨ token = "(") ∧
      Holds settings.keyword .floatLiteral start.cursor finish.cursor
  name : (∃ finish, (factor settings levels).run start = .ok (.var token) finish) ↔
    token.category settings.keyword = .identifier
  other : token.category settings.keyword ∈ [.keyword, .operator, .unknown] ∨
      token.category settings.keyword = .punctuation ∧ token ≠ "(" →
    (factor settings levels).run start =
      .error (errorAt start.cursor .unexpectedToken (.expected .operand)) start

/-- A value of one token is read from a token of the category that it was read as. -/
theorem holds_of_factor (fit : settings.keyword.Fit) (front : start.cursor.peek = some token)
    {tree : Tree} (run : (factor settings levels).run start = .ok tree finish)
    (single : ∀ operator left right, tree ≠ .binary operator left right) {category : Token.Category}
    (read : ∀ literal, Tree.ofOperand literal settings.keyword = .ok tree →
      category.admits settings.keyword literal = true) :
    (token.category settings.keyword = category ∨ token = "(") ∧
      Holds settings.keyword category start.cursor finish.cursor := by
  obtain ⟨count, literal, given, reads⟩ := wrapped_of_factor run single
  have same : literal.category settings.keyword = category :=
    Token.category_of_admits fit (read literal given)
  refine ⟨?_, count, literal, same, reads⟩
  rcases front_of_reads front reads with rfl | opens
  · exact .inl same
  · exact .inr opens

/-- A token that is no number, no name and no parenthesis is no operand. -/
theorem ofOperand_of_category (fit : settings.keyword.Fit)
    (number : token.category settings.keyword ≠ .integerLiteral)
    (point : token.category settings.keyword ≠ .floatLiteral)
    (name : token.category settings.keyword ≠ .identifier) :
    Tree.ofOperand token settings.keyword = .error (.expected .operand) := by
  have fails {category : Token.Category} (other : token.category settings.keyword ≠ category) :
      ¬ category.admits settings.keyword token = true :=
    fun admits => other (Token.category_of_admits fit admits)
  unfold Tree.ofOperand
  exact (if_neg (fails number)).trans ((if_neg (fails point)).trans (if_neg (fails name)))

/-- A factor gives the name that stands at the front exactly when that is an identifier. -/
theorem run_factor_var_iff (fit : settings.keyword.Fit) (front : start.cursor.peek = some token) :
    (∃ finish, (factor settings levels).run start = .ok (.var token) finish) ↔
      token.category settings.keyword = .identifier := by
  have admits : token.isName settings.keyword = true ↔
      Token.Category.identifier.admits settings.keyword token = true := Iff.rfl
  constructor
  · rintro ⟨finish, run⟩
    obtain ⟨count, literal, read, reads⟩ := wrapped_of_factor run (by simp)
    rcases Tree.ofOperand_eq_ok_iff.mp read with ⟨-, -, other⟩ | ⟨-, -, other⟩ | ⟨named, same⟩
    · cases other
    · cases other
    · cases same
      exact Token.category_of_admits fit (admits.mp named)
  · intro category
    have known : token.category settings.keyword ≠ .unknown := by
      rw [category]
      decide
    have named := Token.admits_category known
    rw [category, ← admits] at named
    have closed : token ≠ "(" :=
      Token.ne_of_shape (Token.isIdentifier_of_isName named) (by decide)
    have read : Tree.ofOperand token settings.keyword = .ok (.var token) :=
      Tree.ofOperand_eq_ok_iff.mpr (.inr (.inr ⟨named, rfl⟩))
    refine ⟨start.advanced, ?_⟩
    rw [factor, run_factorOver_of_front _ front closed, read]

/-- At a token that is no number, no name and no parenthesis a factor fails where it stands. -/
theorem run_factor_of_other (fit : settings.keyword.Fit) (front : start.cursor.peek = some token)
    (other : token.category settings.keyword ∈ [.keyword, .operator, .unknown] ∨
      token.category settings.keyword = .punctuation ∧ token ≠ "(") :
    (factor settings levels).run start =
      .error (errorAt start.cursor .unexpectedToken (.expected .operand)) start := by
  have closed : token ≠ "(" := by
    rintro rfl
    have opens : Token.category "(" settings.keyword = .punctuation :=
      Token.category_of_isPunctuation fit (by decide)
    simp [opens] at other
  have refused : Tree.ofOperand token settings.keyword = .error (.expected .operand) := by
    apply ofOperand_of_category fit
    all_goals
      intro category
      simp [category] at other
  rw [factor, run_factorOver_of_front _ front closed, refused]

theorem told (fit : settings.keyword.Fit) (front : start.cursor.peek = some token) :
    Told settings levels start token where
  integer value finish run := by
    apply holds_of_factor fit front run (by simp)
    intro literal read
    rcases Tree.ofOperand_eq_ok_iff.mp read with ⟨digits, -⟩ | ⟨-, -, other⟩ | ⟨-, other⟩
    · exact digits
    · cases other
    · cases other
  float value finish run := by
    apply holds_of_factor fit front run (by simp)
    intro literal read
    rcases Tree.ofOperand_eq_ok_iff.mp read with ⟨-, -, other⟩ | ⟨digits, -⟩ | ⟨-, other⟩
    · cases other
    · exact digits
    · cases other
  name := run_factor_var_iff fit front
  other := run_factor_of_other fit front

/-! ## A token of no category -/

/-- A token passes one of the tests. -/
def Known (keyword token : Token) : Prop :=
  ∃ category : Token.Category, category.admits keyword token = true

namespace Known

theorem mark (mark : token.isPunctuation = true) : Known keyword token := ⟨.punctuation, mark⟩

theorem operator (operator : Operator) : Known keyword operator.text :=
  ⟨.operator, by cases operator <;> rfl⟩

theorem assign : Known keyword Token.assign := ⟨.operator, rfl⟩

theorem word (word : Keyword) : Known keyword word.text :=
  ⟨.keyword, by simp [Token.Category.admits, Token.isKeyword]⟩

theorem declaration : Known keyword keyword :=
  ⟨.keyword, by simp [Token.Category.admits, Token.isKeyword]⟩

theorem name (named : token.isName keyword = true) : Known keyword token := ⟨.identifier, named⟩

theorem names {names : List Token} (named : ∀ name ∈ names, name.isName keyword = true) :
    ∀ token ∈ names.flatMap fun name => [",", name], Known keyword token := by
  intro token inside
  obtain ⟨name, member, either⟩ := List.mem_flatMap.mp inside
  have both : Known keyword "," ∧ Known keyword name :=
    ⟨.mark (by decide), .name (named name member)⟩
  have each : ∀ token ∈ [",", name], Known keyword token := by simpa using both
  exact each token either

end Known

/-- Every token that is derived passes one of the tests. -/
theorem Derivation.known {symbol : Symbol} (derivation : Derivation keyword symbol) :
    ∀ token ∈ derivation.tokens, Known keyword token := by
  have opens : Known keyword "(" := .mark (by decide)
  have closes : Known keyword ")" := .mark (by decide)
  induction derivation with
  | integer token digits => exact List.forall_mem_singleton.mpr ⟨.integerLiteral, digits⟩
  | float token digits => exact List.forall_mem_singleton.mpr ⟨.floatLiteral, digits⟩
  | reference token named => exact List.forall_mem_singleton.mpr (.name named)
  | parenthesized inner ih | group inner ih =>
      simpa [tokens, or_imp, forall_and, opens, closes] using ih
  | comparison left operator relational right ihLeft ihRight =>
      simpa [tokens, or_imp, forall_and, Known.operator] using And.intro ihLeft ihRight
  | joined level left operator admitted right ihLeft ihRight =>
      simpa [tokens, or_imp, forall_and, Known.operator] using And.intro ihLeft ihRight
  | single level operand ih => exact ih
  | ifThen condition body ihCondition ihBody =>
      simpa [tokens, or_imp, forall_and, opens, closes, Known.word] using
        And.intro ihCondition ihBody
  | ifThenElse condition body alternative ihCondition ihBody ihAlternative =>
      simpa [tokens, or_imp, forall_and, opens, closes, Known.word] using
        And.intro ihCondition (And.intro ihBody ihAlternative)
  | loop condition body ihCondition ihBody =>
      simpa [tokens, or_imp, forall_and, opens, closes, Known.word] using
        And.intro ihCondition ihBody
  | nested body ih => exact ih
  | declaration first others named =>
      obtain ⟨namedFirst, namedOthers⟩ := List.forall_mem_cons.mp named
      exact List.forall_mem_cons.mpr ⟨.declaration, List.forall_mem_cons.mpr
        ⟨.name namedFirst, Known.names namedOthers⟩⟩
  | assignment target named value ih =>
      exact List.forall_mem_cons.mpr ⟨.name named, List.forall_mem_cons.mpr ⟨.assign, ih⟩⟩
  | empty => simp [tokens]
  | cons first others ihFirst ihOthers =>
      have separator : Known keyword ";" := .mark (by decide)
      simpa [tokens, or_imp, forall_and, separator] using And.intro ihFirst ihOthers
  | braces statements ih =>
      have brace : Known keyword "\x7b" ∧ Known keyword "\x7d" :=
        ⟨.mark (by decide), .mark (by decide)⟩
      simpa [tokens, or_imp, forall_and, brace] using ih

/-- No program is read through a token that passes no test, and the error lies at it or before. -/
theorem parseProgram_of_unknown {tokens : List Token} {index : Nat}
    (inside : tokens[index]? = some token) (unknown : ¬ Known settings.keyword token) :
    ∃ error, parseProgram settings tokens = .error error ∧ error.position ≤ index := by
  cases outcome : parseProgram settings tokens with
  | ok tree =>
      obtain ⟨derivation, rfl, -⟩ := exists_derivation_of_parseProgram outcome
      exact absurd (derivation.known token (List.mem_of_getElem? inside)) unknown
  | error error =>
      refine ⟨error, rfl, Nat.le_of_not_lt fun beyond => ?_⟩
      obtain ⟨-, -, begun⟩ := parseProgram_error_begins outcome
      obtain ⟨derivation, part⟩ := begun [] (.nothing error.cause)
      rw [List.append_nil] at part
      have before : token ∈ tokens.take error.position :=
        List.mem_of_getElem? ((List.getElem?_take_of_lt beyond).trans inside)
      exact unknown (derivation.known token (part.subset before))

end Grammar

open Grammar

/-- The listing of tokens and the grammar agree. Under a keyword that is fit for use at most one test
holds of a token, the tests can be made in any order both for the category of a token and for a
factor, the category of the front token tells what a factor makes of it, and a token of no category
ends every program at or before it. -/
theorem factor_agrees_with_category {settings : Settings} (valid : settings.fault? = none) :
    (∀ (token : Token) (category category' : Token.Category),
      category.admits settings.keyword token = true →
      category'.admits settings.keyword token = true → category = category') ∧
    (∀ (token : Token) (order : List Token.Category), order.Perm Token.Category.tested →
      (order.find? (·.admits settings.keyword token)).getD .unknown =
        token.category settings.keyword) ∧
    (∀ (order : List Opening) (levels : Nat), order.Perm Opening.all →
      factorInOrder order settings (arithmeticGroup settings levels) = factor settings levels) ∧
    (∀ (levels : Nat) (start : State) (token : Token), start.cursor.peek = some token →
      Told settings levels start token) ∧
    ∀ (tokens : List Token) (index : Nat) (token : Token), tokens[index]? = some token →
      token.category settings.keyword = .unknown →
      ∃ error, parseProgram settings tokens = .error error ∧ error.position ≤ index := by
  have fit := settings.fault?_eq_none_iff_fit.mp valid
  refine ⟨?unique, ?listing, ?factor, ?told, ?unknown⟩
  case unique =>
    intro token category category' admits admits'
    exact (Token.category_of_admits fit admits).symm.trans (Token.category_of_admits fit admits')
  case listing =>
    intro token order all
    exact Token.find?_tested fit all
  case factor =>
    intro order levels all
    exact factorInOrder_eq settings all (arithmeticGroup settings levels)
  case told =>
    intro levels start token front
    exact told fit front
  case unknown =>
    intro tokens index token inside unknown
    refine parseProgram_of_unknown inside ?_
    rintro ⟨category, admits⟩
    rw [Token.category_of_admits fit admits] at unknown
    subst unknown
    cases admits

/-- The unknown token stands in a group that is given up, and the comparison is refused at it or
before; as a factor the name before it is read. -/
theorem factor_agrees_with_category_group :
    (∃ error, parseProgram ⟨"let", 3⟩ ["\x7b", "if", "(", "(", "a", "@", ")"] = .error error ∧
      error.position ≤ 5) ∧
    ∃ finish, (factor ⟨"let", 3⟩ 1).run ⟨.ofList ["a", "@"], #[]⟩ = .ok (.var "a") finish := by
  obtain ⟨-, -, -, told, unknown⟩ := @factor_agrees_with_category ⟨"let", 3⟩ (by decide)
  exact ⟨unknown _ 5 "@" rfl (by decide), (told 1 ⟨.ofList ["a", "@"], #[]⟩ "a" rfl).name.mpr
    (by decide)⟩

/-- A parenthesis is punctuation, and an integer literal in parentheses is read as that literal. -/
theorem factor_int_of_punctuation :
    ¬ ∀ (settings : Settings) (levels : Nat) (start finish : State) (token : Token) (value : Int),
      settings.fault? = none → start.cursor.peek = some token →
      (factor settings levels).run start = .ok (.int value) finish →
      token.category settings.keyword = .integerLiteral := by
  intro agrees
  have category := agrees ⟨"let", 3⟩ 3 ⟨.ofList ["(", "1", ")"], #[]⟩ _ "(" 1 (by decide) rfl rfl
  exact absurd category (by decide)

end BlockLang
