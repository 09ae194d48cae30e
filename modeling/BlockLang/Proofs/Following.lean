import BlockLang.Proofs.Acceptance
import BlockLang.Proofs.Soundness

/-!
# What may follow a statement

A statement ends before a separator, before the end of the input, and before any other token that
does not continue it. Which of these it is makes no difference: what is read before one of them is
read before every other. This does not follow from locality, since the token behind a stretch is
looked at, nor from derivations, since with an unfit keyword not all of them are read. So it is
shown step by step.
-/

namespace BlockLang.Grammar

variable {α β : Type} {settings : Settings} {levels : Nat} {ends : Option Token → Prop}
  {rule : RuleM α} {rest : α → RuleM β} {start : State}

/-- What a rule reads before a suitable token it reads before every other such token. -/
def Indifferent (ends : Option Token → Prop) (rule : RuleM α) (start : State) : Prop :=
  ∀ value finish, rule.run start = .ok value finish →
    ∃ tokens, start.cursor.Reads tokens finish.cursor ∧
      (ends finish.cursor.peek → Handles rule ends tokens value)

namespace Indifferent

theorem mono {ends' : Option Token → Prop} (indifferent : Indifferent ends rule start)
    (of : ∀ next, ends' next → ends next) : Indifferent ends' rule start := by
  intro value finish run
  obtain ⟨tokens, reads, handles⟩ := indifferent value finish run
  exact ⟨tokens, reads, fun ended => (handles (of _ ended)).mono of⟩

theorem pure (value : α) : Indifferent ends (Pure.pure value) start := by
  intro result finish run
  cases run
  exact ⟨[], .refl _, fun _ start' _ _ _ => .pure value start'⟩

/-- A rule that always fails reads nothing. -/
theorem of_tooDeep : Indifferent ends (tooDeep settings : RuleM α) start := by
  intro value finish run
  cases run

/-- Only the decisions before suitable tokens matter. -/
theorem of_decides {step : Option Token → Step α} (decides : Decides rule step)
    (leave : ∀ value, ends start.cursor.peek → step start.cursor.peek = .leave value →
      ∀ next, ends next → step next = .leave value)
    (take : ∀ value, step start.cursor.peek = .take value → start.cursor.peek ≠ none) :
    Indifferent ends rule start := by
  intro value finish run
  rcases decides.of_ok run with ⟨decision, same⟩ | ⟨decision, moved⟩
  · refine ⟨[], same ▸ .refl _, fun ended start' next continues ended' => ?_⟩
    rw [same] at ended
    have front := Cursor.Continues.nil_iff.mp continues
    exact .of_leave decides (front ▸ leave value ended decision next ended')
  · obtain ⟨token, front⟩ := Option.ne_none_iff_exists'.mp (take value decision)
    refine ⟨[token], moved ▸ Cursor.reads_next front, fun _ => ?_⟩
    exact (Handles.take decides (front ▸ decision)).mono fun _ _ => trivial

/-- The second step of a sequence reads nothing, and then the first ends where the sequence does, or
it begins with the token before which the first ends. -/
theorem bind (tracks : Local rule) (head : Indifferent ends rule start)
    (tail : ∀ value middle, rule.run start = .ok value middle →
      Indifferent ends (rest value) middle) : Indifferent ends (rule >>= rest) start := by
  intro result finish run
  obtain ⟨value, middle, passed, later⟩ := run_bind_ok run
  obtain ⟨read, readsHead, handlesHead⟩ := head value middle passed
  obtain ⟨read', readsTail, handlesTail⟩ := tail value middle passed result finish later
  refine ⟨read ++ read', readsHead.trans readsTail, fun ended start' next continues ended' => ?_⟩
  cases read' with
  | nil =>
      rw [readsTail.finish_eq (.refl _)] at ended
      have before := handlesHead ended start' next (List.append_nil read ▸ continues) ended'
      exact before.bind continues fun middle' continues =>
        handlesTail (readsTail.finish_eq (.refl _) ▸ ended) middle' next continues ended'
  | cons token more =>
      have before := tracks.handles passed readsHead
      exact before.bind readsTail.continues.front.symm continues fun middle' continues =>
        handlesTail ended middle' next continues ended'

/-- A sequence that looks at the front token, which it reads later on. -/
theorem look {step : Option Token → α} (decides : Decides rule fun front => .leave (step front))
    (tail : ∀ middle : State, middle.cursor = start.cursor →
      Indifferent ends (rest (step start.cursor.peek)) middle)
    (consumes : ∀ value finish, (rule >>= rest).run start = .ok value finish →
      ¬ start.cursor.Reads [] finish.cursor) : Indifferent ends (rule >>= rest) start := by
  intro value finish run
  obtain ⟨middle, passed, same⟩ : ∃ middle, rule.run start =
      .ok (step start.cursor.peek) middle ∧ middle.cursor = start.cursor :=
    decides.run_of_leave rfl
  have later := run
  rw [run_bind_of_ok passed] at later
  obtain ⟨tokens, reads, handles⟩ := tail middle same value finish later
  rw [same] at reads
  refine ⟨tokens, reads, fun ended start' next continues ended' => ?_⟩
  cases tokens with
  | nil => exact absurd reads (consumes value finish run)
  | cons token more =>
      have front : start'.cursor.peek = start.cursor.peek :=
        continues.front.trans reads.continues.front.symm
      have decision : (.leave (step start'.cursor.peek) : Step α) =
          .leave (step start.cursor.peek) := by rw [front]
      exact .skip continues (.of_leave decides decision) fun middle' continues =>
        handles ended middle' next continues ended'

/-- A rule that takes one token only leaves none. -/
theorem of_required {rule : RuleM Unit} {lexeme : Token} {kind : Option Token → ErrorKind}
    {cause : ErrorCause} (decides : Requires rule lexeme kind cause) :
    Indifferent ends rule start := by
  refine .of_decides decides (fun _ _ decision => ?_) fun _ decision ended => ?_
  · split at decision <;> cases decision
  · rw [ended, if_neg nofun] at decision
    cases decision

/-- A local rule up to the token that closes it may be followed by anything. -/
theorem enclosed {f : α → β} (tracks : Local rule) {closes : RuleM Unit} {lexeme : Token}
    {kind : Option Token → ErrorKind} {cause : ErrorCause}
    (decides : Requires closes lexeme kind cause) :
    Indifferent ends (do
      let value ← rule
      closes
      return f value) start := by
  intro result finish run
  obtain ⟨value, middle, passed, later⟩ := run_bind_ok run
  obtain ⟨_, _, closed, last⟩ := run_bind_ok later
  cases last
  obtain ⟨read, reads⟩ := tracks.reads passed
  obtain ⟨front, moved⟩ := decides.peek_of_ok closed
  refine ⟨read ++ [lexeme], reads.trans (moved ▸ Cursor.reads_next front), ?_⟩
  intro _ start' next continues _
  refine (tracks.handles passed reads).bind front.symm continues fun middle' continues => ?_
  exact (Yields.of_take decides continues.front (if_pos rfl)).last fun _ => f value

end Indifferent

/-! ## How statements end -/

/-- The last token of a derivation is no separator; only a list of statements may derive nothing. -/
theorem Derivation.exists_last {keyword : Token} {symbol : Symbol}
    (derivation : Derivation keyword symbol) (other : symbol ≠ .statements) :
    ∃ last, derivation.tokens.getLast? = some last ∧ last ≠ ";" := by
  have behind {tokens : List Token} (before : List Token)
      (ended : ∃ last, tokens.getLast? = some last ∧ last ≠ ";") :
      ∃ last, (before ++ tokens).getLast? = some last ∧ last ≠ ";" := by
    obtain ⟨last, same, ends⟩ := ended
    exact ⟨last, by rw [List.getLast?_append, same]; rfl, ends⟩
  have bare {token : Token} (ends : token ≠ ";") :
      ∃ last, [token].getLast? = some last ∧ last ≠ ";" := ⟨token, rfl, ends⟩
  have named {token : Token} (named : token.isName keyword = true) : token ≠ ";" :=
    Token.ne_of_shape (Token.isIdentifier_of_isName named) (by decide)
  induction derivation with
  | integer token digits => exact bare (Token.ne_of_shape digits (by decide))
  | float token digits => exact bare (Token.ne_of_shape digits (by decide))
  | reference token name => exact bare (named name)
  | parenthesized inner => exact behind ("(" :: inner.tokens) (bare (by decide))
  | group inner => exact behind ("(" :: inner.tokens) (bare (by decide))
  | braces statements => exact behind ("\x7b" :: statements.tokens) (bare (by decide))
  | single level operand ih => exact ih nofun
  | nested body ih => exact ih nofun
  | comparison left operator relational right ihLeft ihRight =>
      exact behind left.tokens (behind [operator.text] (ihRight nofun))
  | joined level left operator admitted right ihLeft ihRight =>
      exact behind left.tokens (behind [operator.text] (ihRight nofun))
  | ifThen condition body ihCondition ihBody =>
      exact behind (Keyword.ifWord.text :: "(" :: condition.tokens) (behind [")"] (ihBody nofun))
  | ifThenElse condition body alternative ihCondition ihBody ihAlternative =>
      exact behind (Keyword.ifWord.text :: "(" :: condition.tokens ++ ")" :: body.tokens)
        (behind [Keyword.elseWord.text] (ihAlternative nofun))
  | loop condition body ihCondition ihBody =>
      exact behind (Keyword.whileWord.text :: "(" :: condition.tokens) (behind [")"] (ihBody nofun))
  | assignment target named value ih => exact behind [target, Token.assign] (ih nofun)
  | declaration first others names =>
      rcases List.eq_nil_or_concat others with rfl | ⟨before, name, rfl⟩
      · exact behind [keyword] (bare (named (names first (by simp))))
      · rw [Derivation.tokens, List.concat_eq_append, List.flatMap_append]
        exact behind (keyword :: first :: before.flatMap fun name => [",", name])
          (behind [","] (bare (named (names name (by simp)))))
  | empty => exact absurd rfl other
  | cons => exact absurd rfl other

/-- What is read as anything but a list of statements is at least one token. -/
theorem Sound.not_reads_nil {symbol : Symbol} (sound : Sound settings levels symbol)
    (other : symbol ≠ .statements) {value : symbol.Value} {finish : State}
    (run : (symbol.rule settings levels).run start = .ok value finish) :
    ¬ start.cursor.Reads [] finish.cursor := by
  intro nothing
  obtain ⟨tokens, reads, derivation, rfl, -, -⟩ := (sound start).ok run
  obtain ⟨last, ended, -⟩ := derivation.exists_last other
  rw [← nothing.tokens_eq reads] at ended
  cases ended

/-! ## Expressions -/

/-- A chain that ends before suitable tokens is followed by what may follow its operands. -/
theorem chain_indifferent {admits : Operator → Bool} {operand : RuleM Tree}
    (tracks : Local operand) (operands : ∀ start, Indifferent ends operand start)
    (stops : ∀ next, ends next → admitted admits next = none) (start : State) :
    Indifferent ends (chain admits operand) start := by
  have accepts (start : State) : Indifferent ends (acceptOperator admits) start := by
    refine .of_decides (acceptOperator_decides admits) ?_ ?_
    · intro value ended decision next ended'
      rw [stops _ ended] at decision
      cases decision
      rw [stops next ended']
    · intro value decision ended
      rw [ended] at decision
      cases decision
  have further (left : Tree) (start : State) :
      Indifferent ends (chainRest admits operand left) start := by
    induction start using fewer_tokens generalizing left with
    | step start ih =>
        rw [chainRest_unfold tracks, chainRound]
        refine .bind (acceptOperator_tracks admits) (accepts start) fun found middle passed => ?_
        cases found with
        | none => exact .pure left
        | some operator =>
            refine .bind tracks (operands middle) fun right later one => ?_
            have shorter := remaining_lt_of_acceptOperator passed
            have kept := tracks.remaining_le_of_ok one
            exact ih later (by omega) _
  exact .bind tracks (operands start) fun left middle _ => further left middle

theorem factor_indifferent (settings : Settings) (levels : Nat) (start : State) :
    Indifferent ends (factor settings levels) start := by
  refine .look (check_decides "(") (fun middle same => ?_) ?_
  · rw [← same]
    split
    next opens =>
        have front : middle.cursor.peek = some "(" := by simpa using opens
        cases levels with
        | zero => exact .of_tooDeep
        | succ levels =>
            refine .bind advance_tracks (.of_decides advance_decides nofun ?_) fun _ _ _ => ?_
            · intro _ _ ended
              rw [front] at ended
              cases ended
            · exact .enclosed (expression_local settings levels) (require_decides ")" _)
    next =>
        refine .of_decides (operand_decides settings) (fun _ _ decision => ?_) ?_
        · split at decision
          next => split at decision <;> cases decision
          next => cases decision
        · intro _ decision ended
          rw [ended] at decision
          cases decision
  · exact fun tree finish run => (factor_sound settings levels).not_reads_nil nofun run

theorem expression_indifferent (settings : Settings) (levels : Nat) (start : State) :
    Indifferent (Phrase.chain .sum).Ends (expression settings levels) start := by
  have factors : Local (factor settings levels) :=
    factorOver_local (arithmeticGroup_local settings levels)
  refine chain_indifferent (chain_local factors) (chain_indifferent factors
    (factor_indifferent settings levels) fun next ended => ?_) (fun next ended => ?_) start
  · exact (ended.mono (by decide) : (Phrase.chain .product).Ends next).admitted_eq_none
  · exact ended.admitted_eq_none

/-! ## Statements -/

theorem accept_indifferent {lexeme : Token} (stops : ∀ next, ends next → next ≠ some lexeme)
    (start : State) : Indifferent ends (accept lexeme) start := by
  refine .of_decides (accept_decides lexeme) ?_ ?_
  · intro value ended decision next ended'
    rw [if_neg (stops _ ended)] at decision
    cases decision
    exact if_neg (stops next ended')
  · intro value decision ended
    rw [ended, if_neg nofun] at decision
    cases decision

theorem name_indifferent (kind : ErrorKind) (expectation : Expectation) (start : State) :
    Indifferent ends (name settings kind expectation) start := by
  refine .of_decides (name_decides settings kind expectation) ?_ ?_
  · intro value ended decision
    split at decision <;> cases decision
  · intro value decision ended
    rw [ended] at decision
    cases decision

theorem names_indifferent (settings : Settings) (start : State) :
    Indifferent (· ≠ some ",") (names settings) start := by
  induction start using fewer_tokens with
  | step start ih =>
      rw [names_unfold]
      refine .bind (name_tracks rfl _ _) (name_indifferent _ _ start) fun first middle named => ?_
      refine .bind (accept_tracks ",") (accept_indifferent (fun _ ended => ended) middle)
        fun accepted later passed => ?_
      have shorter := remaining_lt_of_name named
      have tracks : Local (accept ",") := accept_tracks ","
      have kept := tracks.remaining_le_of_ok passed
      split
      next =>
          exact .bind (names_tracks rfl) (ih later (by omega)) fun _ _ _ => .pure _
      next => exact .pure _

theorem declaration_indifferent (settings : Settings) (start : State) :
    Indifferent (· ≠ some ",") (declaration settings) start := by
  rw [declaration_eq, map_eq_pure_bind]
  refine .bind (require_tracks _ _) (.of_required (require_decides _ _)) fun _ middle _ => ?_
  exact .bind (names_tracks rfl) (names_indifferent settings middle) fun _ _ _ => .pure _

theorem assignment_indifferent (settings : Settings) (levels : Nat) (start : State) :
    Indifferent (Phrase.chain .sum).Ends (assignment settings levels) start := by
  refine .bind (name_tracks rfl _ _) (name_indifferent _ _ start) fun _ middle _ => ?_
  refine .bind (require_tracks _ _) (.of_required (require_decides _ _)) fun _ later _ => ?_
  exact .bind (expression_local settings levels) (expression_indifferent settings levels later)
    fun _ _ _ => .pure _

theorem headCondition_indifferent (word : Keyword) (start : State) :
    Indifferent ends (headCondition settings levels word) start := by
  refine .bind (require_tracks _ _) (.of_required (require_decides _ _)) fun _ middle _ => ?_
  refine .bind (require_tracks _ _) (.of_required (require_decides _ _)) fun _ later _ => ?_
  exact .enclosed (condition_tracks (.refl settings levels)) (require_decides ")" _)

/-- A block is closed by its brace. -/
theorem block_indifferent (settings : Settings) (levels : Nat) (start : State) :
    Indifferent ends (block settings levels) start := by
  cases levels with
  | zero =>
      rw [block]
      exact .of_tooDeep
  | succ levels =>
      have tracks := (statement_block_local settings levels).1
      rw [block_succ]
      refine .bind (brace_tracks _ _) (.of_required (brace_decides _ _)) fun _ middle _ => ?_
      exact .enclosed (statementsOver_tracks tracks tracks tracks) (brace_decides "\x7d" _)

theorem conditional_indifferent (settings : Settings) (levels : Nat) (start : State) :
    Indifferent (· ≠ some Keyword.elseWord.text) (conditional settings levels) start := by
  have tracks := (statement_block_local settings levels).2
  have blocks (start : State) :
      Indifferent (· ≠ some Keyword.elseWord.text) (block settings levels) start :=
    block_indifferent settings levels start
  refine .bind (headCondition_tracks (.refl settings levels) .ifWord)
    (headCondition_indifferent .ifWord start) fun test middle _ => ?_
  refine .bind tracks (blocks middle) fun body later _ => ?_
  refine .bind (accept_tracks _) (accept_indifferent (fun _ ended => ended) later)
    fun accepted last _ => ?_
  split
  next => exact .bind tracks (blocks last) fun _ _ _ => .pure _
  next => exact .pure _

theorem loop_indifferent (settings : Settings) (levels : Nat) (start : State) :
    Indifferent ends (loop settings levels) start :=
  .bind (headCondition_tracks (.refl settings levels) .whileWord)
    (headCondition_indifferent .whileWord start) fun _ middle _ =>
      .bind (statement_block_local settings levels).2 (block_indifferent settings levels middle)
        fun _ _ _ => .pure _

theorem statementOf_indifferent (settings : Settings) (levels : Nat) (first : Token)
    (start : State) :
    Indifferent Symbol.statement.Ends (statementOf settings levels first) start := by
  rw [statementOf]
  split
  next => exact (conditional_indifferent settings levels start).mono fun _ ended => ended.2.2
  next =>
  split
  next => exact loop_indifferent settings levels start
  next =>
  split
  next =>
      exact .bind (statement_block_local settings levels).2
        (block_indifferent settings levels start) fun _ _ _ => .pure _
  next =>
  split
  next => exact (declaration_indifferent settings start).mono fun _ ended => ended.2.1
  next => exact (assignment_indifferent settings levels start).mono fun _ ended => ended.1

/-- What is read as a statement before a token that ends it is read before every other. -/
theorem statement_indifferent (settings : Settings) (levels : Nat) (start : State) :
    Indifferent Symbol.statement.Ends (statement settings levels) start := by
  have sound := (statement_block_sound settings levels).1
  cases levels with
  | zero =>
      rw [statement]
      exact .of_tooDeep
  | succ levels =>
      have consumes (tree : Tree) (finish : State)
          (run : (statement settings (levels + 1)).run start = .ok tree finish) :
          ¬ start.cursor.Reads [] finish.cursor := sound.not_reads_nil (by simp) run
      rw [statement_succ] at consumes ⊢
      refine .look peek_decides (fun middle same => ?_) consumes
      cases start.cursor.peek with
      | none =>
          intro tree finish run
          cases run
      | some first =>
          have indifferent : Indifferent Symbol.statement.Ends (dispatch first) middle := by
            refine .of_decides (dispatch_decides first) (fun _ _ decision _ _ => decision) ?_
            intro _ decision
            cases decision
          refine .bind (dispatch_decides first).tracks_self indifferent fun _ later _ => ?_
          exact statementOf_indifferent settings levels first later

end BlockLang.Grammar
