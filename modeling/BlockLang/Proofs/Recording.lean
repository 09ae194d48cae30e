import BlockLang.Proofs.Independence

/-!
# What a rule may record

Some events tell of a token: that it was consumed, that the cursor went back to it, or that a
statement begins there. A budget says how often each of them may be recorded for each token. A rule
spends its budget only between the token at which it begins and the one at which it stops, or which
it refuses. So rules that follow each other share one budget, and a step spends at most once.
-/

namespace BlockLang

/-- What an event can tell of a token. -/
inductive Mark where
  /-- The token was consumed. -/
  | reading
  /-- The cursor went back to the token. -/
  | retreat
  /-- A statement begins at the token. -/
  | beginning
  deriving DecidableEq, Repr

/-- The index of the token of which an event tells so. -/
def Event.about? : Mark → Event → Option Nat
  | .reading, .consumed position _ => some position
  | .retreat, .rewound _ target => some target
  | .beginning, .dispatched position _ => some position
  | _, _ => none

/-- The tokens of which a record tells so, in order. -/
def Event.told (mark : Mark) (log : List Event) : List Nat := log.filterMap (Event.about? mark)

/-- How often each thing may be told of each token. -/
abbrev Budget := Mark → Nat → Nat

namespace Grammar

variable {α β : Type} {tokens : List Token} {budget budget' : Budget}

/-- How often a record tells so of a token. -/
def tally (log : Array Event) (mark : Mark) (index : Nat) : Nat :=
  (Event.told mark log.toList).count index

theorem tally_push (log : Array Event) (event : Event) (mark : Mark) (index : Nat) :
    tally (log.push event) mark index =
      tally log mark index + if event.about? mark = some index then 1 else 0 := by
  unfold tally Event.told
  rw [Array.toList_push, List.filterMap_append, List.count_append]
  cases told : event.about? mark with
  | none => simp [told]
  | some index' => simp [told, List.count_singleton]

/-- What of a budget belongs to the tokens from one index up to another. -/
def share (budget : Budget) (first last : Nat) (mark : Mark) (index : Nat) : Nat :=
  if first ≤ index ∧ index < last then budget mark index else 0

theorem share_le (budget : Budget) (first last : Nat) (mark : Mark) (index : Nat) :
    share budget first last mark index ≤ budget mark index := by
  unfold share
  split
  · exact Nat.le_refl _
  · exact Nat.zero_le _

/-- What is recorded between two states stays within the budget of the tokens from the first state
up to an index. -/
def Within (budget : Budget) (start : State) (last : Nat) (finish : State) : Prop :=
  ∀ mark index, tally finish.log mark index ≤
    tally start.log mark index + share budget start.cursor.position last mark index

section Shares

variable {first middle last mark index : Nat} {start between finish : State}

theorem Within.of_tally_eq
    (same : ∀ mark index, tally finish.log mark index = tally start.log mark index) (last : Nat) :
    Within budget start last finish := by
  intro mark index
  rw [same]
  exact Nat.le_add_right _ _

theorem Within.of_log_eq (same : finish.log = start.log) (last : Nat) :
    Within budget start last finish :=
  .of_tally_eq (fun _ _ => by rw [same]) last

/-- Stretches that follow each other share a budget. -/
theorem Within.trans (head : Within budget start between.cursor.position between)
    (tail : Within budget between last finish)
    (before : start.cursor.position ≤ between.cursor.position)
    (behind : between.cursor.position ≤ last) : Within budget start last finish := by
  intro mark index
  have first := head mark index
  have second := tail mark index
  unfold share at first second ⊢
  split at first <;> split at second <;> split <;> omega

/-- A budget that allows as much from where a stretch begins serves as well. -/
theorem Within.mono (within : Within budget start last finish) {last' : Nat}
    (longer : last ≤ last')
    (more : ∀ mark index, start.cursor.position ≤ index → budget mark index ≤ budget' mark index) :
    Within budget' start last' finish := by
  intro mark index
  have spent := within mark index
  unfold share at spent ⊢
  split at spent
  next inside =>
    rw [if_pos ⟨inside.1, Nat.lt_of_lt_of_le inside.2 longer⟩]
    exact Nat.le_trans spent (Nat.add_le_add_left (more mark index inside.1) _)
  next =>
    split <;> omega

end Shares

/-! ## Rules that keep to a budget -/

/-- From a state a rule keeps to a budget, and where it succeeds something holds of its value and of
the position behind it. -/
structure SpendsAt (tokens : List Token) (budget : Budget) (rule : RuleM α)
    (after : α → Nat → Prop) (start : State) : Prop where
  ok : ∀ {value finish}, rule.run start = .ok value finish →
    finish.cursor.tokens.toList = tokens ∧ after value finish.cursor.position ∧
      start.cursor.position ≤ finish.cursor.position ∧
      Within budget start finish.cursor.position finish
  error : ∀ {error finish}, rule.run start = .error error finish →
    start.cursor.position ≤ error.position ∧ Within budget start (error.position + 1) finish

/-- A rule keeps to a budget from every position of which something holds. -/
def Spends (tokens : List Token) (budget : Budget) (before : Nat → Prop) (rule : RuleM α)
    (after : α → Nat → Prop) : Prop :=
  ∀ start : State, start.cursor.tokens.toList = tokens → before start.cursor.position →
    SpendsAt tokens budget rule after start

namespace SpendsAt

variable {rule rule' : RuleM α} {after after' : α → Nat → Prop} {start : State}

theorem of_run_eq (spends : SpendsAt tokens budget rule after start)
    (same : rule'.run start = rule.run start) : SpendsAt tokens budget rule' after start where
  ok run := spends.ok (same ▸ run)
  error run := spends.error (same ▸ run)

/-- A budget that allows as much from the state on serves as well. -/
theorem mono (spends : SpendsAt tokens budget rule after start)
    (reaches : ∀ value position, start.cursor.position ≤ position → after value position →
      after' value position)
    (more : ∀ mark index, start.cursor.position ≤ index → budget mark index ≤ budget' mark index) :
    SpendsAt tokens budget' rule after' start := by
  constructor
  · intro value finish run
    obtain ⟨kept, reached, order, within⟩ := spends.ok run
    exact ⟨kept, reaches _ _ order reached, order, within.mono (Nat.le_refl _) more⟩
  · intro error finish run
    obtain ⟨order, within⟩ := spends.error run
    exact ⟨order, within.mono (Nat.le_refl _) more⟩

end SpendsAt

/-- A rule that tells nothing of any token. -/
def Quiet (rule : RuleM α) : Prop :=
  ∀ (start : State) (mark : Mark) (index : Nat), match rule.run start with
    | .ok _ finish => tally finish.log mark index = tally start.log mark index
    | .error _ finish => tally finish.log mark index = tally start.log mark index

/-- A rule that consumes one token where it succeeds, and records nothing where it fails. -/
def Advancing (rule : RuleM α) : Prop :=
  ∀ start : State, match rule.run start with
    | .ok _ finish => finish = start.advanced
    | .error _ finish => finish.log = start.log

theorem peek_eq_getElem? {cursor : Cursor} (same : cursor.tokens.toList = tokens) :
    cursor.peek = tokens[cursor.position]? := by
  rw [← same, Array.getElem?_toList]
  rfl

namespace Spends

variable {rule : RuleM α} {before before' : Nat → Prop} {after after' : α → Nat → Prop}

theorem weaken (spends : Spends tokens budget before rule after)
    (of : ∀ position, before' position → before position) :
    Spends tokens budget before' rule after :=
  fun start same holds => spends start same (of _ holds)

theorem reach (spends : Spends tokens budget before rule after)
    (reaches : ∀ value position, after value position → after' value position) :
    Spends tokens budget before rule after' := fun start same holds =>
  (spends start same holds).mono (fun value position _ => reaches value position)
    fun _ _ _ => Nat.le_refl _

theorem pure {value : α} (of : ∀ position, before position → after value position) :
    Spends tokens budget before (Pure.pure value) after := by
  intro start same holds
  constructor
  · intro value finish run
    cases run
    exact ⟨same, of _ holds, Nat.le_refl _, .of_log_eq rfl _⟩
  · intro error finish run
    cases run

/-- What ends with a value spends nothing more. -/
theorem done {value : α} : Spends tokens budget before (Pure.pure value) fun _ => before :=
  .pure fun _ holds => holds

/-- Steps that follow each other keep to one budget. -/
theorem bind {next : α → RuleM β} {last : β → Nat → Prop}
    (head : Spends tokens budget before rule after)
    (tail : ∀ value, Spends tokens budget (after value) (next value) last) :
    Spends tokens budget before (rule >>= next) last := by
  intro start same holds
  have spent := head start same holds
  constructor
  · intro value finish run
    obtain ⟨between, middle, runHead, runTail⟩ := run_bind_ok run
    obtain ⟨kept, reached, order, within⟩ := spent.ok runHead
    obtain ⟨kept', reached', order', within'⟩ := (tail between middle kept reached).ok runTail
    exact ⟨kept', reached', Nat.le_trans order order', within.trans within' order order'⟩
  · intro error finish run
    rcases run_bind_error run with runHead | ⟨between, middle, runHead, runTail⟩
    · exact spent.error runHead
    · obtain ⟨kept, reached, order, within⟩ := spent.ok runHead
      obtain ⟨order', within'⟩ := (tail between middle kept reached).error runTail
      exact ⟨Nat.le_trans order order', within.trans within' order (Nat.le_succ_of_le order')⟩

theorem map {last : β → Nat → Prop} {f : α → β} (spends : Spends tokens budget before rule after)
    (of : ∀ value position, after value position → last (f value) position) :
    Spends tokens budget before (f <$> rule) last := by
  rw [map_eq_pure_bind]
  exact spends.bind fun value => .pure (of value)

theorem ite {condition : Prop} [Decidable condition] {other : RuleM α}
    (holds : condition → Spends tokens budget before rule after)
    (fails : ¬ condition → Spends tokens budget before other after) :
    Spends tokens budget before (if condition then rule else other) after := by
  split
  next truth => exact holds truth
  next falsity => exact fails falsity

/-- A rule that keeps to a budget from each position keeps to any budget that allows as much. -/
theorem of_each {each : Nat → Budget}
    (spends : ∀ origin, Spends tokens (each origin)
      (fun position => position = origin ∧ before position) rule after)
    (less : ∀ origin mark index, each origin mark index ≤ budget mark index) :
    Spends tokens budget before rule after := by
  intro start same holds
  exact (spends start.cursor.position start same ⟨rfl, holds⟩).mono
    (fun _ _ _ reached => reached) fun mark index _ => less _ mark index

/-- Behind a token a rule spends nothing on that token or on those before it. -/
theorem past (spends : Spends tokens budget before rule after) (origin : Nat)
    (more : ∀ mark index, origin < index → budget mark index ≤ budget' mark index) :
    Spends tokens budget' (fun position => before position ∧ origin < position) rule
      fun value position => after value position ∧ origin < position := by
  rintro start same ⟨holds, behind⟩
  exact (spends start same holds).mono
    (fun _ _ order reached => ⟨reached, Nat.lt_of_lt_of_le behind order⟩)
    fun mark index order => more mark index (Nat.lt_of_lt_of_le behind order)

/-! ## Steps -/

/-- A step that tells nothing of any token spends nothing. -/
theorem quiet {step : Option Token → Step α} (decides : Decides rule step) (quiet : Quiet rule)
    (leave : ∀ position value, before position → step tokens[position]? = .leave value →
      after value position)
    (take : ∀ position value, before position → step tokens[position]? = .take value →
      ∃ token, tokens[position]? = some token ∧ after value (position + 1)) :
    Spends tokens budget before rule after := by
  intro start same holds
  have silent := quiet start
  have front := peek_eq_getElem? same
  constructor
  · intro value finish run
    simp only [run] at silent
    rcases decides.of_ok run with ⟨decision, stays⟩ | ⟨decision, moved⟩
    · rw [front] at decision
      rw [stays]
      exact ⟨same, leave _ _ holds decision, Nat.le_refl _, .of_tally_eq silent _⟩
    · rw [front] at decision
      obtain ⟨token, present, reached⟩ := take _ _ holds decision
      have position := (Cursor.reads_next (front.trans present)).position_eq
      rw [moved, Cursor.tokens_next, position]
      exact ⟨same, reached, Nat.le_succ _, .of_tally_eq silent _⟩
  · intro error finish run
    simp only [run] at silent
    obtain ⟨kind, cause, -, rfl, -⟩ := decides.of_error run
    exact ⟨Nat.le_refl _, .of_tally_eq silent _⟩

/-- A step that consumes a token spends one reading of it. -/
theorem advancing {step : Option Token → Step α} (decides : Decides rule step)
    (advances : Advancing rule)
    (affords : ∀ position, before position → 0 < budget .reading position)
    (take : ∀ position value, before position → step tokens[position]? = .take value →
      ∃ token, tokens[position]? = some token ∧ after value (position + 1))
    (leave : ∀ (position : Nat) (value : α), step tokens[position]? ≠ .leave value) :
    Spends tokens budget before rule after := by
  intro start same holds
  have advanced := advances start
  have front := peek_eq_getElem? same
  constructor
  · intro value finish run
    rw [run] at advanced
    rcases decides.of_ok run with ⟨decision, -⟩ | ⟨decision, -⟩
    · rw [front] at decision
      exact absurd decision (leave _ _)
    · rw [front] at decision
      obtain ⟨token, present, reached⟩ := take _ _ holds decision
      have shown := front.trans present
      have position := (Cursor.reads_next shown).position_eq
      rw [advanced, advanced_cursor, Cursor.tokens_next, position]
      refine ⟨same, reached, Nat.le_succ _, fun mark index => ?_⟩
      have log : start.advanced.log =
          start.log.push (.consumed start.cursor.position token) := by
        rw [State.advanced, shown]
      rw [log, tally_push]
      apply Nat.add_le_add_left
      split
      next told =>
        cases mark <;> cases told
        have afforded := affords _ holds
        rw [share, if_pos ⟨Nat.le_refl _, Nat.lt_succ_self _⟩]
        exact afforded
      next => exact Nat.zero_le _
  · intro error finish run
    rw [run] at advanced
    obtain ⟨kind, cause, -, rfl, -⟩ := decides.of_error run
    exact ⟨Nat.le_refl _, .of_log_eq advanced _⟩

end Spends

section Steps

variable {before : Nat → Prop}

theorem peek_spends :
    Spends tokens budget before peek fun front position =>
      before position ∧ tokens[position]? = front := by
  refine .quiet peek_decides (fun _ _ _ => rfl) ?_ ?_
  · rintro position value holds ⟨⟩
    exact ⟨holds, rfl⟩
  · intro position value holds decision
    cases decision

theorem check_spends (lexeme : Token) :
    Spends tokens budget before (check lexeme) fun matched position =>
      before position ∧ (matched = true ↔ tokens[position]? = some lexeme) := by
  refine .quiet (check_decides lexeme) (fun _ _ _ => rfl) ?_ ?_
  · rintro position value holds ⟨⟩
    exact ⟨holds, beq_iff_eq⟩
  · intro position value holds decision
    cases decision

/-- A bound on the rounds of a loop is nothing that is recorded. -/
theorem remaining_spends : Spends tokens budget before remaining fun _ => before := by
  intro start same holds
  constructor
  · rintro value finish ⟨⟩
    exact ⟨same, holds, Nat.le_refl _, .of_log_eq rfl _⟩
  · intro error finish run
    cases run

/-- A rule that refuses every token spends nothing. -/
theorem spends_of_stop {rule : RuleM α} {kind : Option Token → ErrorKind} {cause : ErrorCause}
    {after : α → Nat → Prop} (decides : Decides rule fun front => .stop (kind front) cause)
    (quiet : Quiet rule) : Spends tokens budget before rule after := by
  refine .quiet decides quiet ?_ ?_
  · intro position value holds decision
    cases decision
  · intro position value holds decision
    cases decision

theorem refuse_spends {kind : ErrorKind} {expectation : Expectation} {after : α → Nat → Prop} :
    Spends tokens budget before (refuse kind expectation) after :=
  spends_of_stop (refuse_decides kind expectation) fun _ _ _ => rfl

theorem fail_spends {kind : ErrorKind} {cause : ErrorCause} {after : α → Nat → Prop} :
    Spends tokens budget before (fail kind cause) after :=
  spends_of_stop (fail_decides kind cause) fun _ _ _ => rfl

/-- A token that is accepted is not recorded. -/
theorem accept_spends {lexeme : Token} {after : Nat → Prop}
    (of : ∀ position, before position → tokens[position]? = some lexeme → after (position + 1)) :
    Spends tokens budget before (accept lexeme) fun accepted =>
      if accepted then after else before := by
  refine .quiet (accept_decides lexeme) ?_ ?_ ?_
  · intro start mark index
    rw [run_accept]
    by_cases front : start.cursor.check lexeme = true
    · rw [if_pos front]
    · rw [if_neg front]
  · intro position value holds decision
    split at decision <;> cases decision
    exact holds
  · intro position value holds decision
    split at decision <;> cases decision
    next front => exact ⟨lexeme, front, of position holds front⟩

/-- A token that must be accepted is not recorded. -/
theorem accepted_spends {lexeme : Token} {otherwise : RuleM Unit} {after : Nat → Prop}
    (of : ∀ position, before position → tokens[position]? = some lexeme → after (position + 1))
    (refuses : Spends tokens budget before otherwise fun _ => after) :
    Spends tokens budget before (do unless ← accept lexeme do otherwise) fun _ => after := by
  refine (accept_spends of).bind fun accepted => ?_
  cases accepted with
  | true => exact .done
  | false => exact refuses

theorem require_spends {lexeme : Token} {expectation : Expectation} {after : Nat → Prop}
    (of : ∀ position, before position → tokens[position]? = some lexeme → after (position + 1)) :
    Spends tokens budget before (require lexeme expectation) fun _ => after :=
  accepted_spends of refuse_spends

theorem brace_spends {lexeme : Token} {expectation : Expectation} {after : Nat → Prop}
    (of : ∀ position, before position → tokens[position]? = some lexeme → after (position + 1)) :
    Spends tokens budget before (brace lexeme expectation) fun _ => after :=
  accepted_spends of fail_spends

/-- An operator that is accepted is not recorded. -/
theorem acceptOperator_spends {admits : Operator → Bool} {after : Nat → Prop}
    (of : ∀ position (operator : Operator), before position →
      tokens[position]? = some operator.text → after (position + 1)) :
    Spends tokens budget before (acceptOperator admits) fun found =>
      if found.isSome then after else before := by
  refine .quiet (acceptOperator_decides admits) ?_ ?_ ?_
  · intro start mark index
    rw [run_acceptOperator]
    cases (start.cursor.peek.bind Operator.ofText?).filter admits <;> rfl
  · intro position value holds decision
    split at decision <;> cases decision
    exact holds
  · intro position value holds decision
    split at decision <;> cases decision
    next operator found =>
      have front := (peek_of_admitted found).1
      exact ⟨operator.text, front, of position operator holds front⟩

/-- The token at the cursor is consumed and recorded. -/
theorem advance_spends {token : Token} {after : Nat → Prop}
    (affords : ∀ position, before position → 0 < budget .reading position)
    (present : ∀ position, before position → tokens[position]? = some token)
    (of : ∀ position, before position → after (position + 1)) :
    Spends tokens budget before advance fun _ => after := by
  refine .advancing advance_decides (fun _ => rfl) affords ?_ fun _ _ decision => ?_
  · intro position value holds decision
    exact ⟨token, present position holds, of position holds⟩
  · cases decision

/-- A name is consumed and recorded. -/
theorem name_spends {settings : Settings} {kind : ErrorKind} {expectation : Expectation}
    {after : Nat → Prop} (affords : ∀ position, before position → 0 < budget .reading position)
    (of : ∀ position token, before position → tokens[position]? = some token →
      token.isName settings.keyword = true → after (position + 1)) :
    Spends tokens budget before (name settings kind expectation) fun _ => after := by
  refine .advancing (name_decides settings kind expectation) ?_ affords ?_ fun _ _ decision => ?_
  · intro start
    rw [name, EStateM.run_bind, run_peek]
    cases start.cursor.peek with
    | none => rfl
    | some token =>
        dsimp only
        by_cases named : token.isName settings.keyword = true
        · rw [if_pos named]
          rfl
        · rw [if_neg named]
          rfl
  · intro position value holds decision
    split at decision <;> cases decision
    next named =>
      obtain ⟨front, shape⟩ := Option.filter_eq_some_iff.mp named
      exact ⟨value, front, of position value holds front shape⟩
  · split at decision <;> cases decision

/-- A single operand is consumed and recorded. -/
theorem operand_spends {settings : Settings} {after : Nat → Prop}
    (affords : ∀ position, before position → 0 < budget .reading position)
    (of : ∀ position token tree, before position → tokens[position]? = some token →
      Tree.ofOperand token settings.keyword = .ok tree → after (position + 1)) :
    Spends tokens budget before (operand settings) fun _ => after := by
  refine .advancing (operand_decides settings) ?_ affords ?_ fun _ _ decision => ?_
  · intro start
    rw [operand, EStateM.run_bind, run_peek]
    cases start.cursor.peek with
    | none => rfl
    | some token =>
        dsimp only
        cases Tree.ofOperand token settings.keyword <;> rfl
  · intro position value holds decision
    split at decision
    next token front =>
      split at decision <;> cases decision
      next read => exact ⟨token, front, of position token value holds front read⟩
    next => cases decision
  · split at decision
    next => split at decision <;> cases decision
    next => cases decision

/-- Operands and operators that follow each other keep to the budget of the operands. -/
theorem chain_spends {admits : Operator → Bool} {operand : RuleM Tree}
    (spends : Spends tokens budget before operand fun _ => before)
    (of : ∀ position (operator : Operator), before position →
      tokens[position]? = some operator.text → before (position + 1)) :
    Spends tokens budget before (chain admits operand) fun _ => before := by
  have further : ∀ bound left,
      Spends tokens budget before (chainFrom admits operand bound left) fun _ => before := by
    intro bound
    induction bound with
    | zero => exact fun left => .done
    | succ bound ih =>
        intro left
        refine (acceptOperator_spends of).bind fun found => ?_
        cases found with
        | none => exact .done
        | some operator => exact spends.bind fun right => ih (.binary operator left right)
  exact spends.bind fun left => remaining_spends.bind fun bound => further bound left

theorem requireEnd_spends {expectation : Expectation} :
    Spends tokens budget before (requireEnd expectation) fun _ => before := by
  refine peek_spends.bind fun front => .ite (fun _ => refuse_spends) fun _ => ?_
  exact .pure fun _ holds => holds.1

end Steps

end Grammar

end BlockLang
