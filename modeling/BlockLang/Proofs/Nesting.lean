import BlockLang.Proofs.Acceptance

/-!
# Where a limit is exceeded

Every token of a derivation needs some level: the level of a statement, a block or a parenthesis
that it opens, and none otherwise. Where the tokens of a derivation stand at the cursor and the
limit does not admit all of their levels, the rule of the symbol nests too deep at the first token
whose level exceeds the limit. So the levels of the tokens decide alone where a derivable input is
refused, whichever way its parentheses are tried.
-/

namespace BlockLang.Grammar

variable {keyword : Token}

/-! ## Levels beyond a limit -/

/-- The place of the first level beyond a limit. -/
def firstBeyond (limit : Nat) (levels : List Nat) : Option Nat := levels.findIdx? (limit < ·)

section Levels

variable {limit level index : Nat} {first second : List Nat}

theorem firstBeyond_eq_none_iff :
    firstBeyond limit first = none ↔ ∀ level ∈ first, level ≤ limit := by
  simp [firstBeyond]

theorem firstBeyond_cons_of_lt (beyond : limit < level) :
    firstBeyond limit (level :: first) = some 0 := by
  simp [firstBeyond, List.findIdx?_cons, beyond]

theorem firstBeyond_cons_of_le (within : level ≤ limit) :
    firstBeyond limit (level :: first) = (firstBeyond limit first).map (· + 1) := by
  simp [firstBeyond, List.findIdx?_cons, Nat.not_lt.mpr within]

theorem firstBeyond_append_zero : firstBeyond limit (first ++ [0]) = firstBeyond limit first := by
  simp [firstBeyond, List.findIdx?_append, List.findIdx?_cons]

theorem firstBeyond_zero : firstBeyond limit [0] = none := by
  simp [firstBeyond, List.findIdx?_cons]

/-- A level within the limit is not the first beyond it. -/
theorem firstBeyond_cons_eq_some (within : level ≤ limit)
    (beyond : firstBeyond limit (level :: first) = some index) :
    ∃ further, firstBeyond limit first = some further ∧ index = 1 + further := by
  rw [firstBeyond_cons_of_le within, Option.map_eq_some_iff] at beyond
  obtain ⟨further, given, rfl⟩ := beyond
  exact ⟨further, given, Nat.add_comm _ _⟩

/-- What is opened on a level exceeds the limit at once if that is the last level, and otherwise
where what is inside does. -/
theorem firstBeyond_opened (within : level ≤ limit)
    (beyond : firstBeyond limit ((level + 1) :: first) = some index) :
    (level = limit ∧ index = 0) ∨
      ∃ further, level + 1 ≤ limit ∧ firstBeyond limit first = some further ∧
        index = 1 + further := by
  rcases Nat.eq_or_lt_of_le within with rfl | room
  · rw [firstBeyond_cons_of_lt (Nat.lt_succ_self _)] at beyond
    exact .inl ⟨rfl, (Option.some.inj beyond).symm⟩
  · obtain ⟨further, given, place⟩ := firstBeyond_cons_eq_some room beyond
    exact .inr ⟨further, room, given, place⟩

/-- A token behind what is enclosed needs no level. -/
theorem firstBeyond_enclosed (within : level ≤ limit)
    (beyond : firstBeyond limit ((level + 1) :: first ++ [0]) = some index) :
    (level = limit ∧ index = 0) ∨
      ∃ further, level + 1 ≤ limit ∧ firstBeyond limit first = some further ∧
        index = 1 + further := by
  rw [firstBeyond_append_zero] at beyond
  exact firstBeyond_opened within beyond

/-- The first level beyond a limit lies before a token that needs none, or behind it if what is
before is within the limit. -/
theorem firstBeyond_separated (beyond : firstBeyond limit (first ++ 0 :: second) = some index) :
    firstBeyond limit first = some index ∨
      ∃ further, firstBeyond limit first = none ∧ firstBeyond limit second = some further ∧
        index = first.length + (1 + further) := by
  rw [firstBeyond, List.findIdx?_append] at beyond
  change (firstBeyond limit first).or ((firstBeyond limit (0 :: second)).map _) = _ at beyond
  cases found : firstBeyond limit first with
  | some index' =>
      rw [found, Option.some_or] at beyond
      exact .inl beyond
  | none =>
      rw [found, Option.none_or, Option.map_eq_some_iff] at beyond
      obtain ⟨place, given, rfl⟩ := beyond
      obtain ⟨further, behind, rfl⟩ := firstBeyond_cons_eq_some (Nat.zero_le _) given
      exact .inr ⟨further, rfl, behind, Nat.add_comm _ _⟩

end Levels

namespace Derivation

/-- The levels that the tokens of a derivation need if it begins on a level; a token that opens
nothing needs none. -/
def tokenLevels {symbol : Symbol} (level : Nat) : Derivation keyword symbol → List Nat
  | .integer _ _ _ | .float _ _ _ | .reference _ _ => [0]
  | .parenthesized inner => (level + 1) :: inner.tokenLevels (level + 1) ++ [0]
  | .comparison left _ _ right => left.tokenLevels level ++ 0 :: right.tokenLevels level
  | .group inner => (level + 1) :: inner.tokenLevels (level + 1) ++ [0]
  | .single _ operand => operand.tokenLevels level
  | .joined _ left _ _ right => left.tokenLevels level ++ 0 :: right.tokenLevels level
  | .ifThen condition body =>
      (level + 1) :: 0 :: condition.tokenLevels (level + 1) ++ 0 :: body.tokenLevels (level + 1)
  | .ifThenElse condition body alternative =>
      (level + 1) :: 0 :: condition.tokenLevels (level + 1) ++ 0 :: body.tokenLevels (level + 1) ++
        0 :: alternative.tokenLevels (level + 1)
  | .loop condition body =>
      (level + 1) :: 0 :: condition.tokenLevels (level + 1) ++ 0 :: body.tokenLevels (level + 1)
  | .nested body => body.tokenLevels (level + 1)
  | .declaration _ others _ => (level + 1) :: 0 :: others.flatMap fun _ => [0, 0]
  | .assignment _ _ value => (level + 1) :: 0 :: value.tokenLevels (level + 1)
  | .empty => []
  | .cons first others => first.tokenLevels level ++ 0 :: others.tokenLevels level
  | .braces statements => (level + 1) :: statements.tokenLevels (level + 1) ++ [0]

/-- Each token has its level. -/
theorem length_tokenLevels {symbol : Symbol} (derivation : Derivation keyword symbol)
    (level : Nat) : (derivation.tokenLevels level).length = derivation.tokens.length := by
  induction derivation generalizing level <;> simp_all [tokenLevels, tokens]

/-- The brace that opens a block needs its level. -/
theorem exists_tokenLevels_block (body : Derivation keyword .block) (level : Nat) :
    ∃ others, body.tokenLevels level = (level + 1) :: others := by
  cases body with
  | braces statements => exact ⟨_, rfl⟩

/-- What is opened on a level fits a limit when there is room for one level more around what is
inside. -/
theorem within_opened_iff {inside : Prop} {level depth limit : Nat}
    (fits : level + 1 ≤ limit → (inside ↔ level + 1 + depth ≤ limit)) :
    level + 1 ≤ limit ∧ inside ↔ level + (depth + 1) ≤ limit := by
  constructor
  · rintro ⟨room, holds⟩
    have whole := (fits room).mp holds
    omega
  · intro whole
    have room : level + 1 ≤ limit := by omega
    exact ⟨room, (fits room).mpr (by omega)⟩

theorem within_both_iff {first second : Prop} {level depth depth' limit : Nat}
    (fits : first ↔ level + depth ≤ limit) (fits' : second ↔ level + depth' ≤ limit) :
    first ∧ second ↔ level + max depth depth' ≤ limit := by
  rw [fits, fits']
  omega

/-- The levels of the tokens are within a limit exactly when the levels that nest are. -/
theorem forall_tokenLevels_le_iff {symbol : Symbol} (derivation : Derivation keyword symbol)
    {level limit : Nat} (within : level ≤ limit) :
    (∀ n ∈ derivation.tokenLevels level, n ≤ limit) ↔ level + derivation.depth ≤ limit := by
  induction derivation generalizing level with
  | integer | float | reference | empty => simpa [tokenLevels, depth] using within
  | single level operand ih => exact ih within
  | parenthesized inner ih =>
      simpa [tokenLevels, depth, or_imp, forall_and] using within_opened_iff ih
  | group inner ih =>
      simpa [tokenLevels, depth, or_imp, forall_and] using within_opened_iff ih
  | braces statements ih =>
      simpa [tokenLevels, depth, or_imp, forall_and] using within_opened_iff ih
  | assignment target named value ih =>
      simpa [tokenLevels, depth] using within_opened_iff ih
  | declaration first others named =>
      have free : ∀ n ∈ others.flatMap fun _ => [0, 0], n ≤ limit := by simp +contextual
      simpa [tokenLevels, depth] using fun _ => free
  | comparison left operator relational right ihLeft ihRight =>
      simpa [tokenLevels, depth, or_imp, forall_and] using
        within_both_iff (ihLeft within) (ihRight within)
  | joined level left operator admitted right ihLeft ihRight =>
      simpa [tokenLevels, depth, or_imp, forall_and] using
        within_both_iff (ihLeft within) (ihRight within)
  | cons first others ihFirst ihOthers =>
      simpa [tokenLevels, depth, or_imp, forall_and] using
        within_both_iff (ihFirst within) (ihOthers within)
  | nested body ih =>
      rw [tokenLevels, depth, ← within_opened_iff ih]
      refine ⟨fun holds => ⟨?_, holds⟩, And.right⟩
      obtain ⟨others, same⟩ := body.exists_tokenLevels_block (level + 1)
      have head := holds (level + 1 + 1) (same ▸ List.mem_cons_self)
      omega
  | ifThen condition body ihCondition ihBody =>
      simpa [tokenLevels, depth, or_imp, forall_and] using
        within_opened_iff fun room => within_both_iff (ihCondition room) (ihBody room)
  | ifThenElse condition body alternative ihCondition ihBody ihAlternative =>
      simpa [tokenLevels, depth, or_imp, forall_and] using
        within_opened_iff fun room => within_both_iff (ihCondition room)
          (within_both_iff (ihBody room) (ihAlternative room))
  | loop condition body ihCondition ihBody =>
      simpa [tokenLevels, depth, or_imp, forall_and] using
        within_opened_iff fun room => within_both_iff (ihCondition room) (ihBody room)

end Derivation

/-! ## Rules that nest too deep -/

variable {settings : Settings} {levels : Nat}

/-- A rule fails because too many levels nest, at the token so many places behind the cursor. -/
def Exceeds {α : Type} (settings : Settings) (rule : RuleM α) (start : State) (count : Nat) :
    Prop :=
  ∃ place finish, rule.run start =
      .error (errorAt place .nestingTooDeep (.nestingExceeds settings.maxDepth)) finish ∧
    place.tokens = start.cursor.tokens ∧ place.position = start.cursor.position + count

/-- A rule nests too deep at a certain one of some tokens wherever they stand. -/
def Overruns {α : Type} (settings : Settings) (rule : RuleM α) (tokens : List Token)
    (count : Nat) : Prop :=
  ∀ (start : State) (next : Option Token), start.cursor.Continues tokens next →
    Exceeds settings rule start count

section Sequences

variable {α β : Type} {rule : RuleM α} {rest : α → RuleM β} {tokens tokens' : List Token}
  {count : Nat} {value : α}

theorem overruns_tooDeep (tokens : List Token) :
    Overruns settings (tooDeep settings : RuleM α) tokens 0 :=
  fun start _ _ => ⟨start.cursor, start, rfl, rfl, rfl⟩

namespace Overruns

/-- The tokens behind those at which a rule fails do not matter. -/
theorem append (overruns : Overruns settings rule tokens count) (more : List Token) :
    Overruns settings rule (tokens ++ more) count := by
  rintro start next ⟨remainder, split, -⟩
  exact overruns start _ ⟨more ++ remainder, by rw [split, List.append_assoc], rfl⟩

/-- A sequence fails where its first step does. -/
theorem head (overruns : Overruns settings rule tokens count) (rest : α → RuleM β) :
    Overruns settings (rule >>= rest) tokens count := by
  intro start next continues
  obtain ⟨place, finish, run, same, position⟩ := overruns start next continues
  exact ⟨place, finish, run_bind_of_error run, same, position⟩

theorem peek {token : Token} {rest : Option Token → RuleM α}
    (overruns : Overruns settings (rest (some token)) (token :: tokens) count) :
    Overruns settings (Grammar.peek >>= rest) (token :: tokens) count := by
  intro start next continues
  have run : (Grammar.peek >>= rest).run start = (rest (some token)).run start := by
    rw [← continues.front]
    rfl
  obtain ⟨place, finish, failed, same, position⟩ := overruns start next continues
  exact ⟨place, finish, run.trans failed, same, position⟩

end Overruns

/-- A sequence fails where its second step does, behind what its first step reads. -/
theorem Handles.overruns {ends : Option Token → Prop} (handles : Handles rule ends tokens value)
    (ended : ∀ remainder, ends (tokens' ++ remainder).head?)
    (tail : Overruns settings (rest value) tokens' count) :
    Overruns settings (rule >>= rest) (tokens ++ tokens') (tokens.length + count) := by
  intro start next continues
  obtain ⟨remainder, split, -⟩ := id continues
  obtain ⟨middle, run, reads⟩ := handles start _
    ⟨tokens' ++ remainder, by rw [split, List.append_assoc], rfl⟩ (ended remainder)
  obtain ⟨place, finish, failed, same, position⟩ := tail middle next (continues.right reads)
  refine ⟨place, finish, (run_bind_of_ok run).trans failed, same.trans reads.same, ?_⟩
  rw [position, reads.position_eq, Nat.add_assoc]

/-- A first step that reads nothing does not move the place at which a sequence fails. -/
theorem Handles.overruns_skip (handles : Handles rule (fun _ => True) [] value)
    (tail : Overruns settings (rest value) tokens' count) :
    Overruns settings (rule >>= rest) tokens' count := by
  have whole := handles.overruns (fun _ => trivial) tail
  rw [List.nil_append, List.length_nil, Nat.zero_add] at whole
  exact whole

theorem handles_require (lexeme : Token) (expectation : Expectation) :
    Handles (require lexeme expectation) (fun _ => True) [lexeme] () :=
  .take (require_decides lexeme expectation) (if_pos rfl)

end Sequences

section Phrases

variable {tokens tokens' : List Token} {value : Tree} {count : Nat} {level : Level}

/-- A factor nests too deep where the group nests too deep that it begins with. -/
theorem overruns_factor
    (group : Overruns settings (arithmeticGroup settings levels) ("(" :: tokens) count) :
    Overruns settings (Phrase.factor.rule settings levels) ("(" :: tokens) count := by
  intro start next continues
  obtain ⟨place, finish, run, same, position⟩ := group start next continues
  exact ⟨place, finish, (run_factor_of_open continues.front).trans run, same, position⟩

theorem overruns_parenthesized
    (inner : Overruns settings (expression settings levels) tokens count) :
    Overruns settings (Phrase.factor.rule settings (levels + 1)) ("(" :: tokens ++ [")"])
      (1 + count) :=
  overruns_factor <| (Handles.take advance_decides rfl).overruns (fun _ => trivial)
    ((inner.append [")"]).head _)

/-- An atom nests too deep where the group nests too deep that it begins with. -/
theorem overruns_atom
    (group : Overruns settings (conditionGroup settings levels) ("(" :: tokens) count) :
    Overruns settings (Phrase.atom.rule settings levels) ("(" :: tokens) count := by
  intro start next continues
  obtain ⟨place, finish, run, same, position⟩ := group start next continues
  exact ⟨place, finish, (OpenAtom.tooDeep run rfl).run_eq continues.front, same, position⟩

theorem overruns_group (inner : Overruns settings (condition settings levels) tokens count) :
    Overruns settings (Phrase.atom.rule settings (levels + 1)) ("(" :: tokens ++ [")"])
      (1 + count) :=
  overruns_atom <| (handles_require "(" .openGroup).overruns (fun _ => trivial)
    ((inner.append [")"]).head _)

/-- An atom nests too deep where its comparison does, since a group cannot hide that. -/
theorem overruns_comparison
    (compared : Overruns settings (comparison settings levels) tokens count) :
    Overruns settings (Phrase.atom.rule settings levels) tokens count := by
  intro start next continues
  obtain ⟨place, finish, run, same, position⟩ := compared start next continues
  obtain ⟨stop, reported⟩ := (exclusive settings levels).atom_of_tooDeep run rfl
  exact ⟨place, stop, reported, same, position⟩

theorem overruns_right {operator : Operator} (relational : operator.isRelational = true)
    (left : Handles (expression settings levels) (Phrase.chain .sum).Ends tokens value)
    (right : Overruns settings (expression settings levels) tokens' count) :
    Overruns settings (comparison settings levels) (tokens ++ operator.text :: tokens')
      (tokens.length + (1 + count)) := by
  have lt : operator.precedence < (Phrase.chain .sum).precedence := by
    rw [precedence_of_isRelational relational]
    decide
  refine left.overruns (fun _ => .of_operator lt) ?_
  have accepts : Handles (acceptOperator Operator.isRelational) (fun _ => True) [operator.text]
      (some operator) :=
    .take (acceptOperator_decides Operator.isRelational) (by rw [admitted_text relational])
  exact accepts.overruns (fun _ => trivial) (right.head _)

theorem overruns_single
    (operand : Overruns settings (level.operand.rule settings levels) tokens count) :
    Overruns settings ((Phrase.chain level).rule settings levels) tokens count := by
  rw [rule_chain, chain_eq]
  exact operand.head _

theorem overruns_joined (chains : ChainHandles settings levels level tokens value)
    {operator : Operator} (admits : level.admits operator = true)
    (operand : Overruns settings (level.operand.rule settings levels) tokens' count) :
    Overruns settings ((Phrase.chain level).rule settings levels)
      (tokens ++ operator.text :: tokens') (tokens.length + (1 + count)) := by
  intro start next continues
  obtain ⟨middle, run, reads⟩ := chains.run_operator admits continues
  rw [show tokens ++ operator.text :: tokens' = (tokens ++ [operator.text]) ++ tokens' by simp]
    at continues
  obtain ⟨place, finish, failed, same, position⟩ :=
    operand.head _ middle next (continues.right reads)
  refine ⟨place, finish, run.trans failed, same.trans reads.same, ?_⟩
  rw [position, reads.position_eq, List.length_append, List.length_singleton]
  omega

end Phrases

section Statements

variable {tokens tokens' : List Token} {test : Tree} {first : List Tree} {count : Nat}

/-- What follows a fixed word nests too deep where the condition in parentheses does. -/
theorem overruns_condition (word : Keyword) (rest : Tree → RuleM Tree)
    (inner : Overruns settings (condition settings levels) tokens count) (more : List Token) :
    Overruns settings (headCondition settings levels word >>= rest)
      (word.text :: "(" :: tokens ++ ")" :: more) (1 + (1 + count)) := by
  have head : Overruns settings (headCondition settings levels word)
      (word.text :: "(" :: (tokens ++ ")" :: more)) (1 + (1 + count)) :=
    (handles_require word.text _).overruns (fun _ => trivial) <|
      (handles_require "(" _).overruns (fun _ => trivial) ((inner.append _).head _)
  exact head.head rest

/-- Behind a condition in parentheses the body nests too deep. -/
theorem overruns_body (word : Keyword) {rest : Tree → RuleM Tree}
    (inner : Handles (condition settings levels) (Phrase.chain .disjunction).Ends tokens test)
    (body : Overruns settings (rest test) tokens' count) :
    Overruns settings (headCondition settings levels word >>= rest)
      (word.text :: "(" :: tokens ++ ")" :: tokens') (1 + (1 + (tokens.length + (1 + count)))) := by
  have whole := (handles_headCondition word inner).overruns (fun _ => trivial) body
  have places : (word.text :: "(" :: tokens ++ [")"]).length + count =
      1 + (1 + (tokens.length + (1 + count))) := by
    simp only [List.length_append, List.length_cons, List.length_nil]
    omega
  rw [places] at whole
  simpa using whole

/-- Behind the first of two bodies the second nests too deep. -/
theorem overruns_alternative (test : Tree)
    (body : Handles (block settings levels) (fun _ => True) tokens first)
    (alternative : Overruns settings (block settings levels) tokens' count) :
    Overruns settings
      (do
        let body ← block settings levels
        if ← accept Keyword.elseWord.text then
          return Tree.ifThenElse test body (← block settings levels)
        else
          return Tree.ifThen test body)
      (tokens ++ Keyword.elseWord.text :: tokens') (tokens.length + (1 + count)) := by
  have accepts : Handles (accept Keyword.elseWord.text) (fun _ => True) [Keyword.elseWord.text]
      true :=
    .take (accept_decides Keyword.elseWord.text) (if_pos rfl)
  exact body.overruns (fun _ => trivial) <|
    accepts.overruns (fun _ => trivial) (alternative.head _)

/-- A statement nests too deep where that does which its first token stands for. -/
theorem overruns_statement {head : Token}
    (inner : Overruns settings (statementOf settings levels head) (head :: tokens) count) :
    Overruns settings (statement settings (levels + 1)) (head :: tokens) count := by
  rw [statement_succ]
  have dispatches : Handles (dispatch head) (fun _ => True) [] () :=
    fun _ _ _ _ => .of_leave (dispatch_decides head) rfl
  exact .peek (dispatches.overruns_skip inner)

theorem overruns_assignment {target : Token} (named : target.isName settings.keyword = true)
    (value : Overruns settings (expression settings levels) tokens count) :
    Overruns settings (assignment settings levels) (target :: Token.assign :: tokens)
      (1 + (1 + count)) := by
  have reads : Handles (name settings .invalidTarget .target) (fun _ => True) [target] target :=
    .take (name_decides settings .invalidTarget .target) (by simp [Option.filter, named])
  exact reads.overruns (fun _ => trivial) <|
    (handles_require Token.assign _).overruns (fun _ => trivial) (value.head _)

/-- The statements of a block nest too deep where the first of them does. -/
theorem overruns_first {head : Token} (other : head ≠ "\x7d")
    (one : Overruns settings (statement settings levels) (head :: tokens) count) :
    Overruns settings (statements settings levels) (head :: tokens) count := by
  rw [statements, statementsOver_unfold (statement_block_local settings levels).1]
  refine .peek ?_
  dsimp only
  rw [if_neg other]
  exact one.head _

/-- Behind a statement and its separator the others nest too deep. -/
theorem overruns_others {head : Token} {tree : Tree} {ends : Option Token → Prop}
    (other : head ≠ "\x7d") (ended : ends (some ";"))
    (one : Handles (statement settings levels) ends (head :: tokens) tree)
    (others : Overruns settings (statements settings levels) tokens' count) :
    Overruns settings (statements settings levels) (head :: tokens ++ ";" :: tokens')
      ((head :: tokens).length + (1 + count)) := by
  rw [statements, statementsOver_unfold (statement_block_local settings levels).1]
  refine .peek ?_
  dsimp only
  rw [if_neg other]
  refine one.overruns (fun _ => ended) (.peek ?_)
  exact (Handles.take advance_decides rfl).overruns (fun _ => trivial) (others.head _)

theorem overruns_braces
    (inner : Overruns settings (statements settings levels) tokens count) :
    Overruns settings (block settings (levels + 1)) ("\x7b" :: tokens ++ ["\x7d"])
      (1 + count) := by
  rw [block_succ]
  have opens : Handles (brace "\x7b" .openBlock) (fun _ => True) ["\x7b"] () :=
    .take (brace_decides "\x7b" .openBlock) (if_pos rfl)
  exact opens.overruns (fun _ => trivial) ((inner.append _).head _)

end Statements

/-! ## Derivations -/

namespace Derivation

variable {limit level index : Nat} {symbol : Symbol}

/-- Tokens whose levels are within the limit are read. -/
theorem handled_of_within (fit : keyword.Fit) (same : settings.keyword = keyword)
    (derivation : Derivation keyword symbol) (within : level ≤ limit)
    (free : firstBeyond limit (derivation.tokenLevels level) = none) :
    symbol.Handled settings (limit - level) derivation.tokens derivation.value := by
  have room := (derivation.forall_tokenLevels_le_iff within).mp (firstBeyond_eq_none_iff.mp free)
  exact derivation.handled fit same (by omega)

/-- Either a part before a token that opens nothing has the first level beyond the limit, or the part
is read and what is behind has it. -/
theorem beyond_or_handled (fit : keyword.Fit) (same : settings.keyword = keyword)
    (first : Derivation keyword symbol) {behind : List Nat} (within : level ≤ limit)
    (beyond : firstBeyond limit (first.tokenLevels level ++ 0 :: behind) = some index) :
    firstBeyond limit (first.tokenLevels level) = some index ∨
      ∃ further, symbol.Handled settings (limit - level) first.tokens first.value ∧
        firstBeyond limit behind = some further ∧
          index = first.tokens.length + (1 + further) := by
  refine (firstBeyond_separated beyond).imp_right ?_
  rintro ⟨further, free, given, place⟩
  rw [length_tokenLevels] at place
  exact ⟨further, first.handled_of_within fit same within free, given, place⟩

theorem sub_eq_sub_add_one (room : level + 1 ≤ limit) :
    limit - level = limit - (level + 1) + 1 := by
  omega

/-- A statement nests too deep at its first token if no level is left for it, and otherwise where
that does which its first token stands for. -/
theorem overruns_opened {head : Token} {tokens : List Token} {inside : List Nat}
    (within : level ≤ limit) (beyond : firstBeyond limit ((level + 1) :: inside) = some index)
    (inner : ∀ further, level + 1 ≤ limit → firstBeyond limit inside = some further →
      Overruns settings (statementOf settings (limit - (level + 1)) head) (head :: tokens)
        (1 + further)) :
    Overruns settings (statement settings (limit - level)) (head :: tokens) index := by
  rcases firstBeyond_opened within beyond with ⟨rfl, rfl⟩ | ⟨further, room, given, rfl⟩
  · rw [Nat.sub_self, statement]
    exact overruns_tooDeep _
  · rw [sub_eq_sub_add_one room]
    exact overruns_statement (inner further room given)

/-- What follows a fixed word nests too deep where its condition does, or else where that does which
stands behind the condition. -/
theorem overruns_headed (fit : keyword.Fit) (same : settings.keyword = keyword) (word : Keyword)
    {rest : Tree → RuleM Tree} {inside : List Nat} {more : List Token}
    (condition : Derivation keyword .condition) (within : level ≤ limit)
    (beyond : firstBeyond limit (0 :: condition.tokenLevels level ++ 0 :: inside) = some index)
    (tested : ∀ further, firstBeyond limit (condition.tokenLevels level) = some further →
      Overruns settings (Grammar.condition settings (limit - level)) condition.tokens further)
    (behind : ∀ further, firstBeyond limit inside = some further →
      Overruns settings (rest condition.value) more further) :
    Overruns settings (headCondition settings (limit - level) word >>= rest)
      (word.text :: "(" :: condition.tokens ++ ")" :: more) (1 + index) := by
  obtain ⟨place, separated, rfl⟩ := firstBeyond_cons_eq_some (Nat.zero_le _) beyond
  rcases condition.beyond_or_handled fit same within separated with
    given | ⟨further, reads, given, rfl⟩
  · exact overruns_condition word rest (tested place given) more
  · exact overruns_body word reads.handles (behind further given)

/-- What is enclosed nests too deep at the token that opens it if no level is left for it, and
otherwise where what is inside does. -/
theorem overruns_enclosed {α : Type} (rule : Nat → RuleM α) {tokens : List Token}
    {inside : List Nat} (within : level ≤ limit)
    (beyond : firstBeyond limit ((level + 1) :: inside ++ [0]) = some index)
    (closed : Overruns settings (rule 0) tokens 0)
    (inner : ∀ further, level + 1 ≤ limit → firstBeyond limit inside = some further →
      Overruns settings (rule (limit - (level + 1) + 1)) tokens (1 + further)) :
    Overruns settings (rule (limit - level)) tokens index := by
  rcases firstBeyond_enclosed within beyond with ⟨rfl, rfl⟩ | ⟨further, room, given, rfl⟩
  · rw [Nat.sub_self]
    exact closed
  · rw [sub_eq_sub_add_one room]
    exact inner further room given

/-- A comparison nests too deep where its left side does, or else where its right side does. -/
theorem overruns_compared (fit : keyword.Fit) (same : settings.keyword = keyword)
    (left : Derivation keyword .sum) {operator : Operator}
    (relational : operator.isRelational = true) {tokens : List Token} {behind : List Nat}
    (within : level ≤ limit)
    (beyond : firstBeyond limit (left.tokenLevels level ++ 0 :: behind) = some index)
    (one : ∀ further, firstBeyond limit (left.tokenLevels level) = some further →
      Overruns settings (expression settings (limit - level)) left.tokens further)
    (other : ∀ further, firstBeyond limit behind = some further →
      Overruns settings (expression settings (limit - level)) tokens further) :
    Overruns settings (Phrase.atom.rule settings (limit - level))
      (left.tokens ++ operator.text :: tokens) index := by
  apply overruns_comparison
  rcases left.beyond_or_handled fit same within beyond with
    given | ⟨further, reads, given, rfl⟩
  · exact ((one index given).append _).head _
  · exact overruns_right relational reads.handles (other further given)

/-- A chain nests too deep where its operands up to the last do, or else where the last does. -/
theorem overruns_chained (fit : keyword.Fit) (same : settings.keyword = keyword) {part : Level}
    (left : Derivation keyword (.chain part)) {operator : Operator}
    (admitted : part.admits operator = true) {tokens : List Token} {behind : List Nat}
    (within : level ≤ limit)
    (beyond : firstBeyond limit (left.tokenLevels level ++ 0 :: behind) = some index)
    (one : ∀ further, firstBeyond limit (left.tokenLevels level) = some further →
      Overruns settings ((Phrase.chain part).rule settings (limit - level)) left.tokens further)
    (other : ∀ further, firstBeyond limit behind = some further →
      Overruns settings (part.operand.rule settings (limit - level)) tokens further) :
    Overruns settings ((Phrase.chain part).rule settings (limit - level))
      (left.tokens ++ operator.text :: tokens) index := by
  rcases left.beyond_or_handled fit same within beyond with
    given | ⟨further, reads, given, rfl⟩
  · exact (one index given).append _
  · exact overruns_joined reads admitted (other further given)

/-- Two bodies nest too deep where the first does, or else where the second does. -/
theorem overruns_bodies (fit : keyword.Fit) (same : settings.keyword = keyword) (test : Tree)
    (body : Derivation keyword .block) {tokens : List Token} {behind : List Nat}
    (within : level ≤ limit)
    (beyond : firstBeyond limit (body.tokenLevels level ++ 0 :: behind) = some index)
    (one : ∀ further, firstBeyond limit (body.tokenLevels level) = some further →
      Overruns settings (block settings (limit - level)) body.tokens further)
    (other : ∀ further, firstBeyond limit behind = some further →
      Overruns settings (block settings (limit - level)) tokens further) :
    Overruns settings
      (do
        let body ← block settings (limit - level)
        if ← accept Keyword.elseWord.text then
          return Tree.ifThenElse test body (← block settings (limit - level))
        else
          return Tree.ifThen test body)
      (body.tokens ++ Keyword.elseWord.text :: tokens) index := by
  rcases body.beyond_or_handled fit same within beyond with
    given | ⟨further, reads, given, rfl⟩
  · exact ((one index given).append _).head _
  · exact overruns_alternative test reads (other further given)

/-- A block that is a statement nests too deep at its brace if no level is left for the statement or
for the block, and otherwise where the block does. -/
theorem overruns_nested (body : Derivation keyword .block) (within : level ≤ limit)
    (beyond : firstBeyond limit (body.tokenLevels (level + 1)) = some index)
    (inner : level + 1 ≤ limit →
      Overruns settings (block settings (limit - (level + 1))) body.tokens index) :
    Overruns settings (statement settings (limit - level)) body.tokens index := by
  obtain ⟨others, opened⟩ := body.exists_tokenLevels_block (level + 1)
  cases body with
  | braces statements =>
      rcases Nat.eq_or_lt_of_le within with rfl | room
      · rw [opened, firstBeyond_cons_of_lt (by omega)] at beyond
        cases beyond
        rw [Nat.sub_self, statement]
        exact overruns_tooDeep _
      · rw [sub_eq_sub_add_one room]
        apply overruns_statement
        rw [statementOf, if_neg (by decide), if_neg (by decide), if_pos rfl]
        exact (inner room).head _

/-- A declaration has no token that exceeds the limit but its first. -/
theorem overruns_declared {head : Token} {tokens : List Token} (others : List Token)
    (within : level ≤ limit)
    (beyond : firstBeyond limit ((level + 1) :: 0 :: others.flatMap fun _ => [0, 0]) =
      some index) :
    Overruns settings (statement settings (limit - level)) (head :: tokens) index := by
  refine overruns_opened within beyond fun further room given => ?_
  have free : firstBeyond limit (0 :: others.flatMap fun _ => [0, 0]) = none := by
    simp +contextual [firstBeyond_eq_none_iff]
  rw [free] at given
  cases given

/-- An assignment nests too deep at its target if no level is left for it, and otherwise where its
value does. -/
theorem overruns_assigned {target : Token} {tokens : List Token} {inside : List Nat}
    (named : target.isName settings.keyword = true) (within : level ≤ limit)
    (beyond : firstBeyond limit ((level + 1) :: 0 :: inside) = some index)
    (value : ∀ further, level + 1 ≤ limit → firstBeyond limit inside = some further →
      Overruns settings (expression settings (limit - (level + 1))) tokens further) :
    Overruns settings (statement settings (limit - level)) (target :: Token.assign :: tokens)
      index := by
  refine overruns_opened within beyond fun further room opened => ?_
  obtain ⟨place, given, rfl⟩ := firstBeyond_cons_eq_some (Nat.zero_le _) opened
  rw [statementOf_of_isName settings _ named]
  exact overruns_assignment named (value place room given)

/-- Statements nest too deep where the first of them does, or else where the others do. -/
theorem overruns_cons (fit : keyword.Fit) (same : settings.keyword = keyword)
    (first : Derivation keyword .statement) {tokens : List Token} {behind : List Nat}
    (within : level ≤ limit)
    (beyond : firstBeyond limit (first.tokenLevels level ++ 0 :: behind) = some index)
    (one : ∀ further, firstBeyond limit (first.tokenLevels level) = some further →
      Overruns settings (statement settings (limit - level)) first.tokens further)
    (others : ∀ further, firstBeyond limit behind = some further →
      Overruns settings (statements settings (limit - level)) tokens further) :
    Overruns settings (statements settings (limit - level)) (first.tokens ++ ";" :: tokens)
      index := by
  obtain ⟨head, tail, split, other⟩ := exists_head_of_fit fit first
  rcases first.beyond_or_handled fit same within beyond with
    given | ⟨further, reads, given, rfl⟩
  · have fails := one index given
    rw [split] at fails ⊢
    exact overruns_first other (fails.append _)
  · rw [split] at reads ⊢
    exact overruns_others other statement_ends_separator reads.handles (others further given)

/-- If a token of a derivation exceeds the limit, the rule of the symbol nests too deep at the first
that does. -/
theorem overruns (fit : keyword.Fit) (same : settings.keyword = keyword)
    (derivation : Derivation keyword symbol) (within : level ≤ limit)
    (beyond : firstBeyond limit (derivation.tokenLevels level) = some index) :
    Overruns settings (symbol.rule settings (limit - level)) derivation.tokens index := by
  -- Parts before the one with the token are within the limit, so they are read and the rule of that
  -- part is reached; it has the levels that the tokens of the part are counted from.
  induction derivation generalizing level index with
  | integer | float | reference =>
      rw [tokenLevels, firstBeyond_zero] at beyond
      cases beyond
  | empty => cases beyond
  | parenthesized inner ih =>
      exact overruns_enclosed (Phrase.factor.rule settings) within beyond
        (overruns_factor (overruns_tooDeep _))
        fun _ room given => overruns_parenthesized (ih room given)
  | group inner ih =>
      exact overruns_enclosed (Phrase.atom.rule settings) within beyond
        (overruns_atom (overruns_tooDeep _)) fun _ room given => overruns_group (ih room given)
  | comparison left operator relational right ihLeft ihRight =>
      exact overruns_compared fit same left relational within beyond
        (fun _ given => ihLeft within given) (fun _ given => ihRight within given)
  | single level operand ih => exact overruns_single (ih within beyond)
  | joined part left operator admitted right ihLeft ihRight =>
      exact overruns_chained fit same left admitted within beyond
        (fun _ given => ihLeft within given) (fun _ given => ihRight within given)
  | ifThen condition body ihCondition ihBody =>
      refine overruns_opened within beyond fun further room opened => ?_
      rw [statementOf, if_pos rfl]
      exact overruns_headed fit same .ifWord condition room opened
        (fun _ given => ihCondition room given) (fun _ given => (ihBody room given).head _)
  | ifThenElse condition body alternative ihCondition ihBody ihAlternative =>
      rw [tokenLevels, List.append_assoc] at beyond
      rw [tokens, List.append_assoc]
      refine overruns_opened within beyond fun further room opened => ?_
      rw [statementOf, if_pos rfl]
      exact overruns_headed fit same .ifWord condition room opened
        (fun _ given => ihCondition room given) fun _ behind =>
          overruns_bodies fit same _ body room behind (fun _ given => ihBody room given)
            fun _ given => ihAlternative room given
  | loop condition body ihCondition ihBody =>
      refine overruns_opened within beyond fun further room opened => ?_
      rw [statementOf, if_neg (by decide), if_pos rfl]
      exact overruns_headed fit same .whileWord condition room opened
        (fun _ given => ihCondition room given) (fun _ given => (ihBody room given).head _)
  | nested body ih => exact overruns_nested body within beyond fun room => ih room beyond
  | declaration first others named => exact overruns_declared others within beyond
  | assignment target named value ih =>
      subst same
      exact overruns_assigned named within beyond fun _ room given => ih room given
  | cons first others ihFirst ihOthers =>
      exact overruns_cons fit same first within beyond (fun _ given => ihFirst within given)
        (fun _ given => ihOthers within given)
  | braces statements ih =>
      exact overruns_enclosed (block settings) within beyond (overruns_tooDeep _)
        fun _ room given => overruns_braces (ih room given)

end Derivation

end BlockLang.Grammar
