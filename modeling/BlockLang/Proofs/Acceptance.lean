import BlockLang.Proofs.Derivation
import BlockLang.Proofs.Independence
import BlockLang.Proofs.Shape

/-!
# Derivable tokens are read

Where the tokens of a derivation stand at the cursor, the rule of its symbol reads them and gives
its value, if there are levels enough and the next token does not continue the symbol. So no
derivation is lost to a loop that reads on, to the dispatch on one token, or to a parenthesis that
is first tried as a group.
-/

namespace BlockLang.Grammar

variable {keyword : Token} {settings : Settings} {levels : Nat} {start : State}
  {next : Option Token}

/-- A rule reads some tokens and gives a value. -/
def Yields {α : Type} (rule : RuleM α) (start : State) (tokens : List Token) (value : α) : Prop :=
  ∃ finish, rule.run start = .ok value finish ∧ start.cursor.Reads tokens finish.cursor

namespace Yields

variable {α β : Type} {rule : RuleM α} {rest : α → RuleM β} {tokens tokens' : List Token}
  {token : Token} {value : α} {value' : β}

theorem pure (value : α) (start : State) : Yields (Pure.pure value) start [] value :=
  ⟨start, rfl, .refl _⟩

/-- A sequence reads the tokens of its steps. -/
theorem bind (head : Yields rule start tokens value)
    (continues : start.cursor.Continues (tokens ++ tokens') next)
    (tail : ∀ middle : State, middle.cursor.Continues tokens' next →
      Yields (rest value) middle tokens' value') :
    Yields (rule >>= rest) start (tokens ++ tokens') value' := by
  obtain ⟨middle, runHead, readsHead⟩ := head
  obtain ⟨finish, runTail, readsTail⟩ := tail middle (continues.right readsHead)
  exact ⟨finish, (run_bind_of_ok runHead).trans runTail, readsHead.trans readsTail⟩

/-- A sequence whose first step reads one token. -/
theorem step (continues : start.cursor.Continues (token :: tokens') next)
    (head : Yields rule start [token] value)
    (tail : ∀ middle : State, middle.cursor.Continues tokens' next →
      Yields (rest value) middle tokens' value') :
    Yields (rule >>= rest) start (token :: tokens') value' :=
  head.bind continues tail

/-- A sequence whose first step reads nothing. -/
theorem skip (continues : start.cursor.Continues tokens' next) (head : Yields rule start [] value)
    (tail : ∀ middle : State, middle.cursor.Continues tokens' next →
      Yields (rest value) middle tokens' value') :
    Yields (rule >>= rest) start tokens' value' :=
  head.bind continues tail

/-- A sequence whose last step only makes a value. -/
theorem last (head : Yields rule start tokens value) (f : α → β) :
    Yields (rule >>= fun value => Pure.pure (f value)) start tokens (f value) := by
  obtain ⟨finish, run, reads⟩ := head
  exact ⟨finish, run_bind_of_ok run, reads⟩

theorem map {f : α → β} (head : Yields rule start tokens value) :
    Yields (f <$> rule) start tokens (f value) := by
  rw [map_eq_pure_bind]
  exact head.last f

/-- A rule that takes the front token reads it. -/
theorem of_take {step : Option Token → Step α} (decides : Decides rule step)
    (front : start.cursor.peek = some token) (decision : step (some token) = .take value) :
    Yields rule start [token] value := by
  rw [← front] at decision
  obtain ⟨finish, run, moved⟩ := decides.run_of_take decision
  exact ⟨finish, run, moved ▸ Cursor.reads_next front⟩

/-- A rule that leaves the front token reads nothing. -/
theorem of_leave {step : Option Token → Step α} (decides : Decides rule step)
    (decision : step start.cursor.peek = .leave value) : Yields rule start [] value := by
  obtain ⟨finish, run, same⟩ := decides.run_of_leave decision
  exact ⟨finish, run, same ▸ .refl _⟩

theorem require {lexeme : Token} (expectation : Expectation)
    (front : start.cursor.peek = some lexeme) :
    Yields (Grammar.require lexeme expectation) start [lexeme] () :=
  of_take (require_decides lexeme expectation) front (if_pos rfl)

theorem advance (front : start.cursor.peek = some token) :
    Yields Grammar.advance start [token] () :=
  of_take advance_decides front rfl

theorem accept {lexeme : Token} (front : start.cursor.peek = some lexeme) :
    Yields (Grammar.accept lexeme) start [lexeme] true :=
  of_take (accept_decides lexeme) front (if_pos rfl)

theorem accept_other {lexeme : Token} (other : start.cursor.peek ≠ some lexeme) :
    Yields (Grammar.accept lexeme) start [] false :=
  of_leave (accept_decides lexeme) (if_neg other)

theorem requireEnd (expectation : Expectation) (ended : start.cursor.peek = none) :
    Yields (Grammar.requireEnd expectation) start [] () :=
  of_leave (requireEnd_decides expectation) (if_pos ended)

theorem name {settings : Settings} (kind : ErrorKind) (expectation : Expectation)
    (front : start.cursor.peek = some token) (named : token.isName settings.keyword = true) :
    Yields (Grammar.name settings kind expectation) start [token] token :=
  of_take (name_decides settings kind expectation) front (by simp [Option.filter, named])

end Yields

/-! ## Where a symbol ends -/

/-- A phrase ends before a token that is no operator of it. -/
def Phrase.Ends (phrase : Phrase) (next : Option Token) : Prop :=
  ∀ operator : Operator, next = some operator.text → operator.precedence < phrase.precedence

/-- A symbol ends before a token that does not continue it. -/
def Symbol.Ends : Symbol → Option Token → Prop
  | .phrase part => part.Ends
  | .statement => fun next =>
      (Phrase.chain .sum).Ends next ∧ next ≠ some "," ∧ next ≠ some Keyword.elseWord.text
  | .statements => (· = some "\x7d")
  | .block => fun _ => True

namespace Phrase.Ends

theorem mono {phrase phrase' : Phrase} (ends : phrase.Ends next)
    (le : phrase.precedence ≤ phrase'.precedence) : phrase'.Ends next :=
  fun operator same => Nat.lt_of_lt_of_le (ends operator same) le

/-- Any phrase ends before a token that is no operator. -/
theorem of_not_operator {phrase : Phrase}
    (other : ∀ operator : Operator, next ≠ some operator.text) : phrase.Ends next :=
  fun operator same => absurd same (other operator)

theorem of_operator {phrase : Phrase} {operator : Operator}
    (lt : operator.precedence < phrase.precedence) : phrase.Ends (some operator.text) := by
  intro operator' same
  rw [Operator.text_injective (Option.some.inj same)] at lt
  exact lt

theorem close (phrase : Phrase) : phrase.Ends (some ")") :=
  of_not_operator fun operator => by cases operator <;> decide

/-- A chain that ends admits no operator. -/
theorem admitted_eq_none {level : Level} (ends : (Phrase.chain level).Ends next) :
    admitted level.admits next = none := by
  cases found : admitted level.admits next with
  | none => rfl
  | some operator =>
      obtain ⟨same, admits⟩ := peek_of_admitted found
      have lt := ends operator same
      rw [(level.admits_iff operator).mp admits] at lt
      exact absurd lt (Nat.lt_irrefl _)

end Phrase.Ends

/-- A statement ends before its separator. -/
theorem statement_ends_separator : Symbol.statement.Ends (some ";") :=
  ⟨.of_not_operator fun operator => by cases operator <;> decide, by decide, by decide⟩

/-! ## Phrases -/

/-- A rule reads some tokens and gives a value wherever they stand before a suitable token. -/
def Handles {α : Type} (rule : RuleM α) (ends : Option Token → Prop) (tokens : List Token)
    (value : α) : Prop :=
  ∀ (start : State) (next : Option Token), start.cursor.Continues tokens next → ends next →
    Yields rule start tokens value

theorem Handles.mono {α : Type} {rule : RuleM α} {ends ends' : Option Token → Prop}
    {tokens : List Token} {value : α} (handles : Handles rule ends tokens value)
    (of : ∀ next, ends' next → ends next) : Handles rule ends' tokens value :=
  fun start next continues ended => handles start next continues (of next ended)

/-- A sequence whose second step begins at a token that ends the first. -/
theorem Handles.bind {α β : Type} {rule : RuleM α} {rest : α → RuleM β} {ends : Option Token → Prop}
    {tokens tokens' : List Token} {token : Token} {value : α} {value' : β}
    (handles : Handles rule ends tokens value) (ended : ends (some token))
    (continues : start.cursor.Continues (tokens ++ token :: tokens') next)
    (tail : ∀ middle : State, middle.cursor.Continues (token :: tokens') next →
      Yields (rest value) middle (token :: tokens') value') :
    Yields (rule >>= rest) start (tokens ++ token :: tokens') value' := by
  refine (handles start (some token) ?_ ended).bind continues tail
  obtain ⟨remainder, split, -⟩ := continues
  exact ⟨token :: tokens' ++ remainder, by rw [split, List.append_assoc], rfl⟩

/-- A sequence whose first step ends before any token. -/
theorem Handles.append {α β : Type} {rule : RuleM α} {rest : α → RuleM β}
    {tokens tokens' : List Token} {value : α} {value' : β}
    (handles : Handles rule (fun _ => True) tokens value)
    (continues : start.cursor.Continues (tokens ++ tokens') next)
    (tail : ∀ middle : State, middle.cursor.Continues tokens' next →
      Yields (rest value) middle tokens' value') :
    Yields (rule >>= rest) start (tokens ++ tokens') value' := by
  obtain ⟨remainder, split, -⟩ := id continues
  refine (handles start (tokens' ++ remainder).head? ?_ trivial).bind continues tail
  exact ⟨tokens' ++ remainder, by rw [split, List.append_assoc], rfl⟩

/-- A rule that takes a token takes it whatever follows. -/
theorem Handles.take {α : Type} {rule : RuleM α} {step : Option Token → Step α} {token : Token}
    {value : α} (decides : Decides rule step) (decision : step (some token) = .take value) :
    Handles rule (fun _ => True) [token] value :=
  fun _ _ continues _ => .of_take decides continues.front decision

/-- What a local rule reads before a token it reads wherever that token follows. -/
theorem Tracks.handles {α : Type} {rule : RuleM α} (tracks : Local rule) {value : α}
    {tokens : List Token} {finish : State} (run : rule.run start = .ok value finish)
    (reads : start.cursor.Reads tokens finish.cursor) :
    Handles rule (· = finish.cursor.peek) tokens value := by
  rintro start' next agree rfl
  exact tracks.follow_ok run reads agree

/-- A chain reads its operands and is left where it would go on, since more of them may follow. -/
def ChainHandles (settings : Settings) (levels : Nat) (level : Level) (tokens : List Token)
    (value : Tree) : Prop :=
  ∀ (start : State) (next : Option Token), start.cursor.Continues tokens next →
    level.operand.Ends next →
    ∃ finish, ((Phrase.chain level).rule settings levels).run start =
        (chainRest level.admits (level.operand.rule settings levels) value).run finish ∧
      start.cursor.Reads tokens finish.cursor

theorem rule_local (settings : Settings) (levels : Nat) (phrase : Phrase) :
    Local (phrase.rule settings levels) := by
  have factors : Local (factor settings levels) :=
    factorOver_local (arithmeticGroup_local settings levels)
  have atoms := atom_local settings levels
  cases phrase with
  | factor => exact factors
  | atom => exact atoms
  | chain level =>
      cases level with
      | product => exact chain_local factors
      | sum => exact chain_local (chain_local factors)
      | conjunction => exact chain_local atoms
      | disjunction => exact chain_local (chain_local atoms)

section Phrases

variable {tokens tokens' : List Token} {value value' : Tree} {level : Level}

/-- Before a token that ends it a chain is read to its end. -/
theorem ChainHandles.handles (chains : ChainHandles settings levels level tokens value) :
    Handles ((Phrase.chain level).rule settings levels) (Phrase.chain level).Ends tokens value := by
  intro start next continues ends
  obtain ⟨finish, run, reads⟩ := chains start next continues
    (ends.mono (Nat.le_of_lt level.precedence_lt_operand))
  have absent := ends.admitted_eq_none
  rw [← continues.peek_of_reads reads] at absent
  rw [run_chainRest_of_none (rule_local settings levels level.operand) absent] at run
  exact ⟨finish, run, reads⟩

theorem chainHandles_single
    (operand : Handles (level.operand.rule settings levels) level.operand.Ends tokens value) :
    ChainHandles settings levels level tokens value := by
  intro start next continues ends
  obtain ⟨finish, run, reads⟩ := operand start next continues ends
  refine ⟨finish, ?_, reads⟩
  rw [rule_chain, chain_eq, run_bind_of_ok run]

/-- A chain goes on with an operator of its level, which its operands do not continue with, and
then with an operand. -/
theorem ChainHandles.run_operator (chains : ChainHandles settings levels level tokens value)
    {operator : Operator} (admits : level.admits operator = true)
    (continues : start.cursor.Continues (tokens ++ operator.text :: tokens') next) :
    ∃ middle, ((Phrase.chain level).rule settings levels).run start =
        (level.operand.rule settings levels >>= fun right =>
          chainRest level.admits (level.operand.rule settings levels)
            (.binary operator value right)).run middle ∧
      start.cursor.Reads (tokens ++ [operator.text]) middle.cursor := by
  have lt : operator.precedence < level.operand.precedence := by
    rw [(level.admits_iff operator).mp admits]
    exact level.precedence_lt_operand
  obtain ⟨rest, split, -⟩ := continues
  have before : start.cursor.Continues tokens (some operator.text) :=
    ⟨operator.text :: tokens' ++ rest, by rw [split, List.append_assoc], rfl⟩
  obtain ⟨middle, run, reads⟩ := chains start _ before (.of_operator lt)
  have front := before.peek_of_reads reads
  have found : admitted level.admits middle.cursor.peek = some operator := by
    rw [front, admitted_text admits]
  refine ⟨⟨middle.cursor.next, middle.log⟩, ?_, reads.trans (Cursor.reads_next front)⟩
  rw [run, run_chainRest_of_admitted (rule_local settings levels level.operand) found]

theorem chainHandles_joined (chains : ChainHandles settings levels level tokens value)
    {operator : Operator} (admits : level.admits operator = true)
    (operand : Handles (level.operand.rule settings levels) level.operand.Ends tokens' value') :
    ChainHandles settings levels level (tokens ++ operator.text :: tokens')
      (.binary operator value value') := by
  intro start next continues ends
  obtain ⟨middle, runLeft, readsLeft⟩ := chains.run_operator admits continues
  rw [show tokens ++ operator.text :: tokens' = (tokens ++ [operator.text]) ++ tokens' by simp]
    at continues ⊢
  obtain ⟨finish, runRight, readsRight⟩ := operand middle next (continues.right readsLeft) ends
  exact ⟨finish, runLeft.trans (run_bind_of_ok runRight), readsLeft.trans readsRight⟩

end Phrases

/-! ## Factors and atoms -/

section Atoms

variable {tokens tokens' : List Token} {value value' : Tree}

/-- A token that is an operand by itself is read as one. -/
theorem handles_operand {token : Token} (other : token ≠ "(")
    (read : Tree.ofOperand token settings.keyword = .ok value) :
    Handles (Phrase.factor.rule settings levels) Phrase.factor.Ends [token] value := by
  intro start next continues _
  have front := continues.front
  refine .skip continues (.of_leave (check_decides "(") rfl) fun middle continues => ?_
  have front' := continues.front
  rw [if_neg (by simpa [front] using other)]
  exact .of_take (operand_decides settings) front' (by simp [read])

/-- What is read behind a parenthesis and before the one that closes it. -/
theorem yields_enclosed {rule : RuleM Tree} {phrase : Phrase} {expectation : Expectation}
    (inner : Handles rule phrase.Ends tokens value)
    (continues : start.cursor.Continues (tokens ++ [")"]) next) :
    Yields (do
      let tree ← rule
      require ")" expectation
      return tree) start (tokens ++ [")"]) value := by
  refine inner.bind (.close phrase) continues fun middle continues => ?_
  have front := continues.front
  exact (Yields.require expectation front).last fun _ => value

theorem handles_parenthesized
    (inner : Handles (expression settings levels) (Phrase.chain .sum).Ends tokens value) :
    Handles (Phrase.factor.rule settings (levels + 1)) Phrase.factor.Ends
      ("(" :: tokens ++ [")"]) value := by
  intro start next continues _
  have front := continues.front
  refine .skip continues (.of_leave (check_decides "(") rfl) fun middle continues => ?_
  have front' := continues.front
  rw [if_pos (by simp [front])]
  exact .step continues (.advance front') fun inside continues => yields_enclosed inner continues

/-- A group is read as one, since a parenthesis is tried as a group first. -/
theorem handles_group
    (inner : Handles (condition settings levels) (Phrase.chain .disjunction).Ends tokens value) :
    Handles (Phrase.atom.rule settings (levels + 1)) Phrase.atom.Ends
      ("(" :: tokens ++ [")"]) value := by
  intro start next continues _
  have opens := continues.front
  have grouped : Yields (conditionGroup settings (levels + 1)) start ("(" :: tokens ++ [")"])
      value :=
    .step continues (.require .openGroup opens) fun inside continues =>
      yields_enclosed inner continues
  obtain ⟨finish, run, reads⟩ := grouped
  exact ⟨finish, (OpenAtom.group run).run_eq opens, reads⟩

theorem yields_comparison {operator : Operator} (relational : operator.isRelational = true)
    (left : Handles (expression settings levels) (Phrase.chain .sum).Ends tokens value)
    (right : Handles (expression settings levels) (Phrase.chain .sum).Ends tokens' value')
    (continues : start.cursor.Continues (tokens ++ operator.text :: tokens') next)
    (ends : (Phrase.chain .sum).Ends next) :
    Yields (comparison settings levels) start (tokens ++ operator.text :: tokens')
      (.binary operator value value') := by
  have lt : operator.precedence < (Phrase.chain .sum).precedence := by
    rw [precedence_of_isRelational relational]
    decide
  refine left.bind (.of_operator lt) continues fun middle continues => ?_
  have front := continues.front
  refine .step continues (.of_take (acceptOperator_decides Operator.isRelational) front
    (by rw [admitted_text relational])) fun middle continues => ?_
  exact (right middle next continues ends).last fun right => Tree.binary operator value right

/-- A comparison is read as one even where it begins with a parenthesis, since no group can be read
there. -/
theorem handles_comparison {operator : Operator} (relational : operator.isRelational = true)
    (left : Handles (expression settings levels) (Phrase.chain .sum).Ends tokens value)
    (right : Handles (expression settings levels) (Phrase.chain .sum).Ends tokens' value') :
    Handles (Phrase.atom.rule settings levels) Phrase.atom.Ends
      (tokens ++ operator.text :: tokens') (.binary operator value value') := by
  intro start next continues ends
  have ends' : (Phrase.chain .sum).Ends next := ends.mono (by decide)
  by_cases opens : start.cursor.peek = some "("
  · obtain ⟨finish, run, -⟩ := yields_comparison relational left right continues ends'
    obtain ⟨error, stop, refused, shallow, -⟩ := conditionGroup_of_comparison opens rfl run
    have again : Yields (comparison settings levels) (stop.back start.cursor)
        (tokens ++ operator.text :: tokens') (.binary operator value value') :=
      yields_comparison relational left right continues ends'
    obtain ⟨finish', run', reads⟩ := again
    exact ⟨finish', (OpenAtom.comparison refused shallow run').run_eq opens, reads⟩
  · obtain ⟨finish, run, reads⟩ := yields_comparison relational left right continues ends'
    exact ⟨finish, (run_atom_of_not_open opens).trans run, reads⟩

end Atoms

/-! ## Statements -/

section Statements

variable {tokens tokens' tokens'' : List Token} {test : Tree} {body first second : List Tree}

/-- What follows a fixed word up to the parenthesis that closes its condition. -/
theorem handles_headCondition (word : Keyword)
    (inner : Handles (condition settings levels) (Phrase.chain .disjunction).Ends tokens test) :
    Handles (headCondition settings levels word) (fun _ => True)
      (word.text :: "(" :: tokens ++ [")"]) test := by
  intro start next continues _
  refine .step continues (.require _ continues.front)
    fun middle continues => ?_
  exact .step continues (.require _ continues.front)
    fun inside continues => yields_enclosed inner continues

theorem handles_conditional
    (inner : Handles (condition settings levels) (Phrase.chain .disjunction).Ends tokens test)
    (body : Handles (block settings levels) (fun _ => True) tokens' first) :
    Handles (conditionalOver settings levels (block settings levels))
      (· ≠ some Keyword.elseWord.text)
      (Keyword.ifWord.text :: "(" :: tokens ++ ")" :: tokens') (.ifThen test first) := by
  intro start next continues ends
  have split : Keyword.ifWord.text :: "(" :: tokens ++ ")" :: tokens' =
      (Keyword.ifWord.text :: "(" :: tokens ++ [")"]) ++ (tokens' ++ []) := by simp
  rw [split] at continues ⊢
  refine (handles_headCondition .ifWord inner).append continues fun middle continues => ?_
  refine body.append continues fun middle continues => ?_
  have other : middle.cursor.peek ≠ some Keyword.elseWord.text := by
    rw [Cursor.Continues.nil_iff.mp continues]
    exact ends
  exact .skip continues (.accept_other other) fun middle _ => .pure _ middle

theorem handles_alternative
    (inner : Handles (condition settings levels) (Phrase.chain .disjunction).Ends tokens test)
    (body : Handles (block settings levels) (fun _ => True) tokens' first)
    (alternative : Handles (block settings levels) (fun _ => True) tokens'' second) :
    Handles (conditionalOver settings levels (block settings levels)) (fun _ => True)
      (Keyword.ifWord.text :: "(" :: tokens ++ ")" :: tokens' ++
        Keyword.elseWord.text :: tokens'') (.ifThenElse test first second) := by
  intro start next continues ends
  have split : Keyword.ifWord.text :: "(" :: tokens ++ ")" :: tokens' ++
        Keyword.elseWord.text :: tokens'' =
      (Keyword.ifWord.text :: "(" :: tokens ++ [")"]) ++
        (tokens' ++ Keyword.elseWord.text :: tokens'') := by simp
  rw [split] at continues ⊢
  refine (handles_headCondition .ifWord inner).append continues fun middle continues => ?_
  refine body.append continues fun middle continues => ?_
  have front := continues.front
  refine .step continues (.accept front) fun middle continues => ?_
  exact (alternative middle next continues trivial).last fun second =>
    Tree.ifThenElse test first second

theorem handles_loop
    (inner : Handles (condition settings levels) (Phrase.chain .disjunction).Ends tokens test)
    (body : Handles (block settings levels) (fun _ => True) tokens' first) :
    Handles (loopOver settings levels (block settings levels)) (fun _ => True)
      (Keyword.whileWord.text :: "(" :: tokens ++ ")" :: tokens') (.loop test first) := by
  intro start next continues _
  have split : Keyword.whileWord.text :: "(" :: tokens ++ ")" :: tokens' =
      (Keyword.whileWord.text :: "(" :: tokens ++ [")"]) ++ tokens' := by simp
  rw [split] at continues ⊢
  refine (handles_headCondition .whileWord inner).append continues fun middle continues => ?_
  exact (body middle next continues trivial).last fun first => Tree.loop test first

/-- Names are read up to one that no comma follows. -/
theorem handles_names (first : Token) (others : List Token)
    (named : ∀ name ∈ first :: others, name.isName settings.keyword = true) :
    Handles (names settings) (· ≠ some ",")
      (first :: others.flatMap fun name => [",", name]) (first :: others) := by
  induction others generalizing first with
  | nil =>
      intro start next continues ends
      rw [names_unfold]
      have front := continues.front
      refine .step continues (.name _ _ front (named first List.mem_cons_self))
        fun middle continues => ?_
      have other : middle.cursor.peek ≠ some "," := by
        rw [Cursor.Continues.nil_iff.mp continues]
        exact ends
      exact .skip continues (.accept_other other) fun middle _ => .pure _ middle
  | cons second others ih =>
      intro start next continues ends
      rw [names_unfold]
      have front := continues.front
      refine .step continues (.name _ _ front (named first List.mem_cons_self))
        fun middle continues => ?_
      have comma := continues.front
      refine .step continues (.accept comma) fun middle continues => ?_
      have rest := ih second (fun name member => named name (List.mem_cons_of_mem _ member))
      exact (rest middle next continues ends).last fun others => first :: others

theorem handles_declaration (first : Token) (others : List Token)
    (named : ∀ name ∈ first :: others, name.isName settings.keyword = true) :
    Handles (declaration settings) (· ≠ some ",")
      (settings.keyword :: first :: others.flatMap fun name => [",", name])
      (.declare (first :: others)) := by
  intro start next continues ends
  rw [declaration_eq]
  have front := continues.front
  refine .step continues (.require _ front) fun middle continues => ?_
  exact (handles_names first others named middle next continues ends).map

theorem handles_assignment {target : Token} {value : Tree}
    (named : target.isName settings.keyword = true)
    (inner : Handles (expression settings levels) (Phrase.chain .sum).Ends tokens value) :
    Handles (assignment settings levels) (Phrase.chain .sum).Ends
      (target :: Token.assign :: tokens) (.assign target value) := by
  intro start next continues ends
  refine .step continues (.name _ _ continues.front named)
    fun middle continues => ?_
  refine .step continues (.require _ continues.front)
    fun middle continues => ?_
  exact (inner middle next continues ends).last fun value => Tree.assign target value

/-- A statement is read by what its first token stands for. -/
theorem handles_statement {ends : Option Token → Prop} {first : Token} {tree : Tree}
    (inner : Handles (statementOf settings levels first) ends (first :: tokens) tree) :
    Handles (statement settings (levels + 1)) ends (first :: tokens) tree := by
  intro start next continues ended
  have front := continues.front
  rw [statement_succ]
  refine .skip continues (.of_leave peek_decides rfl) fun middle continues => ?_
  rw [front]
  refine .skip continues (.of_leave (dispatch_decides first) rfl) fun middle continues => ?_
  exact inner middle next continues ended

/-! ### Statements by their first token -/

theorem handles_statement_ifThen
    (inner : Handles (condition settings levels) (Phrase.chain .disjunction).Ends tokens test)
    (body : Handles (block settings levels) (fun _ => True) tokens' first) :
    Handles (statement settings (levels + 1)) Symbol.statement.Ends
      (Keyword.ifWord.text :: "(" :: tokens ++ ")" :: tokens') (.ifThen test first) := by
  apply handles_statement
  rw [statementOf, if_pos rfl]
  exact (handles_conditional inner body).mono fun _ ends => ends.2.2

theorem handles_statement_ifThenElse
    (inner : Handles (condition settings levels) (Phrase.chain .disjunction).Ends tokens test)
    (body : Handles (block settings levels) (fun _ => True) tokens' first)
    (alternative : Handles (block settings levels) (fun _ => True) tokens'' second) :
    Handles (statement settings (levels + 1)) Symbol.statement.Ends
      (Keyword.ifWord.text :: "(" :: tokens ++ ")" :: tokens' ++
        Keyword.elseWord.text :: tokens'') (.ifThenElse test first second) := by
  apply handles_statement
  rw [statementOf, if_pos rfl]
  exact (handles_alternative inner body alternative).mono fun _ _ => trivial

theorem handles_statement_loop
    (inner : Handles (condition settings levels) (Phrase.chain .disjunction).Ends tokens test)
    (body : Handles (block settings levels) (fun _ => True) tokens' first) :
    Handles (statement settings (levels + 1)) Symbol.statement.Ends
      (Keyword.whileWord.text :: "(" :: tokens ++ ")" :: tokens') (.loop test first) := by
  apply handles_statement
  rw [statementOf, if_neg (by decide), if_pos rfl]
  exact (handles_loop inner body).mono fun _ _ => trivial

/-- A statement that begins with the brace of a block is that block. -/
theorem handles_statement_nested
    (inner : Handles (block settings levels) (fun _ => True) ("\x7b" :: tokens) body) :
    Handles (statement settings (levels + 1)) Symbol.statement.Ends ("\x7b" :: tokens)
      (.block body) := by
  apply handles_statement
  rw [statementOf, if_neg (by decide), if_neg (by decide), if_pos rfl]
  intro start next continues _
  exact (inner start next continues trivial).last fun body => Tree.block body

theorem handles_statement_declaration (fit : settings.keyword.Fit) (first : Token)
    (others : List Token)
    (named : ∀ name ∈ first :: others, name.isName settings.keyword = true) :
    Handles (statement settings (levels + 1)) Symbol.statement.Ends
      (settings.keyword :: first :: others.flatMap fun name => [",", name])
      (.declare (first :: others)) := by
  apply handles_statement
  rw [statementOf, if_neg (fit.2 _), if_neg (fit.2 _),
    if_neg (Token.ne_of_shape fit.1 (by decide)), if_pos rfl]
  exact (handles_declaration first others named).mono fun _ ends => ends.2.1

/-- The first token of an assignment is a name, which stands for no other statement. -/
theorem statementOf_of_isName (settings : Settings) (levels : Nat) {target : Token}
    (named : target.isName settings.keyword = true) :
    statementOf settings levels target = assignment settings levels := by
  obtain ⟨noWord, noKeyword⟩ := Token.ne_of_isName named
  rw [statementOf, if_neg (noWord _), if_neg (noWord _),
    if_neg (Token.ne_of_shape (Token.isIdentifier_of_isName named) (by decide)),
    if_neg noKeyword]

theorem handles_statement_assignment {target : Token} {value : Tree}
    (named : target.isName settings.keyword = true)
    (inner : Handles (expression settings levels) (Phrase.chain .sum).Ends tokens value) :
    Handles (statement settings (levels + 1)) Symbol.statement.Ends
      (target :: Token.assign :: tokens) (.assign target value) := by
  apply handles_statement
  rw [statementOf_of_isName settings levels named]
  exact (handles_assignment named inner).mono fun _ ends => ends.1

/-! ### Statements of a block -/

theorem handles_empty :
    Handles (statements settings levels) (· = some "\x7d") [] [] := by
  intro start next continues ends
  have front : start.cursor.peek = some "\x7d" := (Cursor.Continues.nil_iff.mp continues).trans ends
  rw [statements, statementsOver_unfold (statement_block_local settings levels).1]
  refine .skip continues (.of_leave peek_decides rfl) fun middle _ => ?_
  rw [front]
  dsimp only
  rw [if_pos rfl]
  exact .pure [] middle

/-- A statement with its separator is read before other statements. -/
theorem handles_cons {head : Token} {tree : Tree} {ends : Option Token → Prop}
    (other : head ≠ "\x7d") (ended : ends (some ";"))
    (one : Handles (statement settings levels) ends (head :: tokens) tree)
    (others : Handles (statements settings levels) (· = some "\x7d") tokens' first) :
    Handles (statements settings levels) (· = some "\x7d") (head :: tokens ++ ";" :: tokens')
      (tree :: first) := by
  intro start next continues ends
  have front := continues.front
  rw [statements, statementsOver_unfold (statement_block_local settings levels).1]
  refine .skip continues (.of_leave peek_decides rfl) fun middle continues => ?_
  rw [front]
  dsimp only
  rw [if_neg other]
  refine one.bind ended continues fun middle continues => ?_
  have separator := continues.front
  refine .skip continues (.of_leave peek_decides rfl) fun middle' continues => ?_
  rw [separator]
  dsimp only
  rw [if_pos rfl]
  have separator' := continues.front
  refine .step continues (.advance separator') fun middle continues => ?_
  exact (others middle next continues ends).last fun others => tree :: others

/-- Statements between braces are read as a block. -/
theorem handles_braces
    (inner : Handles (statements settings levels) (· = some "\x7d") tokens body) :
    Handles (block settings (levels + 1)) (fun _ => True) ("\x7b" :: tokens ++ ["\x7d"]) body := by
  intro start next continues _
  rw [block_succ]
  have opens := continues.front
  refine .step continues (.of_take (brace_decides "\x7b" .openBlock) opens (if_pos rfl))
    fun middle continues => ?_
  refine inner.bind rfl continues fun middle continues => ?_
  have closes := continues.front
  exact (Yields.of_take (brace_decides "\x7d" .closeBlock) closes (if_pos rfl)).last fun _ => body

end Statements

/-! ## Derivations -/

/-- The rule of a symbol reads some tokens and gives a value, where a chain may go on. -/
def Symbol.Handled (settings : Settings) (levels : Nat) :
    (symbol : Symbol) → List Token → symbol.Value → Prop
  | .phrase (.chain level) => ChainHandles settings levels level
  | .phrase .factor => Handles (Phrase.factor.rule settings levels) Phrase.factor.Ends
  | .phrase .atom => Handles (Phrase.atom.rule settings levels) Phrase.atom.Ends
  | .statement => Handles (Grammar.statement settings levels) Symbol.statement.Ends
  | .statements => Handles (Grammar.statements settings levels) Symbol.statements.Ends
  | .block => Handles (Grammar.block settings levels) Symbol.block.Ends

theorem Symbol.Handled.handles {symbol : Symbol} {tokens : List Token} {value : symbol.Value}
    (handled : symbol.Handled settings levels tokens value) :
    Handles (symbol.rule settings levels) symbol.Ends tokens value := by
  match symbol with
  | .phrase (.chain level) => exact ChainHandles.handles handled
  | .phrase .factor | .phrase .atom | .statement | .statements | .block => exact handled

namespace Derivation

/-- A statement begins with a token that does not close a block, unless the keyword does. -/
theorem exists_head (statement : Derivation keyword .statement) :
    ∃ head tokens, statement.tokens = head :: tokens ∧ (head = "\x7d" → keyword = "\x7d") := by
  cases statement with
  | ifThen | ifThenElse | loop => exact ⟨_, _, rfl, fun same => absurd same (by decide)⟩
  | nested body =>
      cases body with
      | braces statements => exact ⟨_, _, rfl, fun same => absurd same (by decide)⟩
  | declaration => exact ⟨_, _, rfl, fun same => same⟩
  | assignment target named =>
      have other : target ≠ "\x7d" :=
        Token.ne_of_shape (Token.isIdentifier_of_isName named) (by decide)
      exact ⟨_, _, rfl, fun same => absurd same other⟩

/-- A keyword that is fit for use closes no block. -/
theorem exists_head_of_fit (fit : keyword.Fit) (statement : Derivation keyword .statement) :
    ∃ head tokens, statement.tokens = head :: tokens ∧ head ≠ "\x7d" := by
  obtain ⟨head, tokens, split, closes⟩ := statement.exists_head
  exact ⟨head, tokens, split, fun same => Token.ne_of_shape fit.1 (by decide) (closes same)⟩

/-- Where one level more than a part needs is admitted, a level is left around the part. -/
theorem exists_levels_of_succ_le {depth : Nat} (fits : depth + 1 ≤ levels) :
    ∃ inner, levels = inner + 1 ∧ depth ≤ inner := by
  obtain ⟨inner, rfl⟩ := Nat.exists_eq_succ_of_ne_zero (Nat.ne_zero_of_lt fits)
  exact ⟨inner, rfl, Nat.le_of_succ_le_succ fits⟩

/-- A derived statement and its separator are read before derived statements. -/
theorem handled_cons (fit : keyword.Fit) (first : Derivation keyword .statement)
    {tokens : List Token} {rest : List Tree}
    (one : Handles (statement settings levels) Symbol.statement.Ends first.tokens first.value)
    (others : Handles (statements settings levels) (· = some "\x7d") tokens rest) :
    Handles (statements settings levels) (· = some "\x7d") (first.tokens ++ ";" :: tokens)
      (first.value :: rest) := by
  obtain ⟨head, tail, split, other⟩ := exists_head_of_fit fit first
  rw [split] at one ⊢
  exact handles_cons other statement_ends_separator one others

/-- The rule of its symbol reads the tokens of a derivation and gives its value, if the levels
suffice. -/
theorem handled (fit : keyword.Fit) (same : settings.keyword = keyword) {symbol : Symbol}
    (derivation : Derivation keyword symbol) (fits : derivation.depth ≤ levels) :
    symbol.Handled settings levels derivation.tokens derivation.value := by
  subst same
  induction derivation generalizing levels with
  | integer token digits inRange =>
      exact handles_operand (Token.ne_of_shape digits (by decide))
        (Tree.ofOperand_eq_ok_iff.mpr (.inl ⟨digits, inRange, rfl⟩))
  | float token digits finite =>
      exact handles_operand (Token.ne_of_shape digits (by decide))
        (Tree.ofOperand_eq_ok_iff.mpr (.inr (.inl ⟨digits, finite, rfl⟩)))
  | reference token named =>
      exact handles_operand (Token.ne_of_shape (Token.isIdentifier_of_isName named) (by decide))
        (Tree.ofOperand_eq_ok_iff.mpr (.inr (.inr ⟨named, rfl⟩)))
  | parenthesized inner ih =>
      obtain ⟨levels, rfl, room⟩ := exists_levels_of_succ_le fits
      exact handles_parenthesized (ih room).handles
  | comparison left operator relational right ihLeft ihRight =>
      obtain ⟨fitsLeft, fitsRight⟩ := Nat.max_le.mp fits
      exact handles_comparison relational (ihLeft fitsLeft).handles (ihRight fitsRight).handles
  | group inner ih =>
      obtain ⟨levels, rfl, room⟩ := exists_levels_of_succ_le fits
      exact handles_group (ih room).handles
  | single level operand ih => exact chainHandles_single (ih fits).handles
  | joined level left operator admitted right ihLeft ihRight =>
      obtain ⟨fitsLeft, fitsRight⟩ := Nat.max_le.mp fits
      exact chainHandles_joined (ihLeft fitsLeft) admitted (ihRight fitsRight).handles
  | ifThen condition body ihCondition ihBody =>
      obtain ⟨levels, rfl, room⟩ := exists_levels_of_succ_le fits
      obtain ⟨fitsCondition, fitsBody⟩ := Nat.max_le.mp room
      exact handles_statement_ifThen (ihCondition fitsCondition).handles (ihBody fitsBody)
  | ifThenElse condition body alternative ihCondition ihBody ihAlternative =>
      obtain ⟨levels, rfl, room⟩ := exists_levels_of_succ_le fits
      obtain ⟨fitsCondition, fitsBodies⟩ := Nat.max_le.mp room
      obtain ⟨fitsBody, fitsAlternative⟩ := Nat.max_le.mp fitsBodies
      exact handles_statement_ifThenElse (ihCondition fitsCondition).handles (ihBody fitsBody)
        (ihAlternative fitsAlternative)
  | loop condition body ihCondition ihBody =>
      obtain ⟨levels, rfl, room⟩ := exists_levels_of_succ_le fits
      obtain ⟨fitsCondition, fitsBody⟩ := Nat.max_le.mp room
      exact handles_statement_loop (ihCondition fitsCondition).handles (ihBody fitsBody)
  | nested body ih =>
      obtain ⟨levels, rfl, room⟩ := exists_levels_of_succ_le fits
      cases body with
      | braces statements => exact handles_statement_nested (ih room)
  | declaration first others named =>
      obtain ⟨levels, rfl, -⟩ := exists_levels_of_succ_le fits
      exact handles_statement_declaration fit first others named
  | assignment target named value ih =>
      obtain ⟨levels, rfl, room⟩ := exists_levels_of_succ_le fits
      exact handles_statement_assignment named (ih room).handles
  | empty => exact handles_empty
  | cons first others ihFirst ihOthers =>
      obtain ⟨fitsFirst, fitsOthers⟩ := Nat.max_le.mp fits
      exact handled_cons fit first (ihFirst fitsFirst).handles (ihOthers fitsOthers)
  | braces statements ih =>
      obtain ⟨levels, rfl, room⟩ := exists_levels_of_succ_le fits
      exact handles_braces (ih room)

end Derivation

end BlockLang.Grammar
