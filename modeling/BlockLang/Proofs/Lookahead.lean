import BlockLang.Proofs.Tracking

/-!
# Rules that look at one token

Every rule that is not composed of others decides by the front token alone whether it leaves the
token, consumes it or refuses it. Such a decision tells all that the rule does apart from what it
records, so two rules with one decision track each other.
-/

namespace BlockLang

theorem Cursor.next_eq_self {cursor : Cursor} (ended : cursor.peek = none) :
    cursor.next = cursor := by
  unfold Cursor.next
  split
  next inside => simp [Cursor.peek, inside] at ended
  next => rfl

namespace Grammar

variable {α : Type}

/-- A decision about the front token. -/
inductive Step (α : Type) where
  | leave (value : α)
  | take (value : α)
  | stop (kind : ErrorKind) (cause : ErrorCause)

/-- What a decision does at a cursor. -/
inductive Step.Describes (cursor : Cursor) : Step α → EStateM.Result SyntaxError State α → Prop
  | leave {value : α} {finish : State} (same : finish.cursor = cursor) :
      Describes cursor (.leave value) (.ok value finish)
  | take {value : α} {finish : State} (moved : finish.cursor = cursor.next) :
      Describes cursor (.take value) (.ok value finish)
  | stop {kind : ErrorKind} {cause : ErrorCause} {finish : State} (same : finish.cursor = cursor) :
      Describes cursor (.stop kind cause) (.error (errorAt cursor kind cause) finish)

/-- A rule decides by the front token alone. -/
def Decides (rule : RuleM α) (step : Option Token → Step α) : Prop :=
  ∀ start : State, (step start.cursor.peek).Describes start.cursor (rule.run start)

variable {strict : Prop} {start finish : State}

namespace Decides

variable {rule rule' : RuleM α} {step : Option Token → Step α}

/-- A rule that succeeds has left the front token or taken it. -/
theorem of_ok (decides : Decides rule step) {value : α}
    (run : rule.run start = .ok value finish) :
    (step start.cursor.peek = .leave value ∧ finish.cursor = start.cursor) ∨
      (step start.cursor.peek = .take value ∧ finish.cursor = start.cursor.next) := by
  have described := decides start
  rw [run] at described
  generalize step start.cursor.peek = decision at described
  cases described with
  | leave same => exact .inl ⟨rfl, same⟩
  | take moved => exact .inr ⟨rfl, moved⟩

/-- A rule that fails has refused the front token. -/
theorem of_error (decides : Decides rule step) {error : SyntaxError}
    (run : rule.run start = .error error finish) :
    ∃ kind cause, step start.cursor.peek = .stop kind cause ∧
      error = errorAt start.cursor kind cause ∧ finish.cursor = start.cursor := by
  have described := decides start
  rw [run] at described
  generalize step start.cursor.peek = decision at described
  cases described with
  | stop same => exact ⟨_, _, rfl, rfl, same⟩

theorem run_of_leave (decides : Decides rule step) {value : α}
    (decision : step start.cursor.peek = .leave value) :
    ∃ finish, rule.run start = .ok value finish ∧ finish.cursor = start.cursor := by
  have described := decides start
  rw [decision] at described
  generalize outcome : rule.run start = result at described
  cases described with
  | leave same => exact ⟨_, rfl, same⟩

theorem run_of_take (decides : Decides rule step) {value : α}
    (decision : step start.cursor.peek = .take value) :
    ∃ finish, rule.run start = .ok value finish ∧ finish.cursor = start.cursor.next := by
  have described := decides start
  rw [decision] at described
  generalize outcome : rule.run start = result at described
  cases described with
  | take moved => exact ⟨_, rfl, moved⟩

theorem run_of_stop (decides : Decides rule step) {kind : ErrorKind} {cause : ErrorCause}
    (decision : step start.cursor.peek = .stop kind cause) :
    ∃ finish, rule.run start = .error (errorAt start.cursor kind cause) finish ∧
      finish.cursor = start.cursor := by
  have described := decides start
  rw [decision] at described
  generalize outcome : rule.run start = result at described
  cases described with
  | stop same => exact ⟨_, rfl, same⟩

/-- Rules with one decision track each other. -/
theorem tracks (decides : Decides rule step) (decides' : Decides rule' step) :
    Tracks strict rule rule' := by
  intro start start'
  constructor
  · intro value finish run
    rcases decides.of_ok run with ⟨decision, same⟩ | ⟨decision, moved⟩
    · refine ⟨[], by rw [same]; exact .refl _, ?_⟩
      intro agree
      rw [same, Cursor.Continues.nil_iff] at agree
      rw [← agree] at decision
      obtain ⟨finish', run', same'⟩ := decides'.run_of_leave decision
      exact ⟨finish', run', by rw [same']; exact .refl _⟩
    · cases front : start.cursor.peek with
      | none =>
          rw [Cursor.next_eq_self front] at moved
          refine ⟨[], by rw [moved]; exact .refl _, ?_⟩
          intro agree
          rw [moved, Cursor.Continues.nil_iff] at agree
          rw [← agree] at decision
          obtain ⟨finish', run', moved'⟩ := decides'.run_of_take decision
          rw [Cursor.next_eq_self (agree.trans front)] at moved'
          exact ⟨finish', run', by rw [moved']; exact .refl _⟩
      | some token =>
          refine ⟨[token], by rw [moved]; exact Cursor.reads_next front, ?_⟩
          intro agree
          rw [Cursor.Continues.cons_iff] at agree
          rw [front, ← agree.1] at decision
          obtain ⟨finish', run', moved'⟩ := decides'.run_of_take decision
          exact ⟨finish', run', by rw [moved']; exact Cursor.reads_next agree.1⟩
  · intro error finish run
    obtain ⟨kind, cause, decision, rfl, same⟩ := decides.of_error run
    refine ⟨[], [], by rw [same]; exact .refl _, List.prefix_rfl, .errorAt _ _ _, ?_⟩
    intro agree _
    have front : start'.cursor.peek = start.cursor.peek := Cursor.Continues.nil_iff.mp agree
    rw [← front] at decision
    obtain ⟨finish', run', same'⟩ := decides'.run_of_stop decision
    refine ⟨finish', ?_, by rw [same']; exact .refl _⟩
    rw [run']
    simp [errorAt, SyntaxError.moved, front]

theorem tracks_self (decides : Decides rule step) : Tracks strict rule rule :=
  decides.tracks decides

end Decides

/-! ## The decisions of the steps -/

/-- The kind under which a rule refuses a front token; at the end of input it is always the same. -/
def refusalKind (kind : ErrorKind) (front : Option Token) : ErrorKind :=
  if front.isSome then kind else .endOfInput

theorem record_decides (event : Event) : Decides (record event) fun _ => .leave () :=
  fun _ => .leave rfl

theorem peek_decides : Decides peek .leave :=
  fun _ => .leave rfl

theorem check_decides (lexeme : Token) : Decides (check lexeme) fun front =>
    .leave (front == some lexeme) :=
  fun _ => .leave rfl

theorem fail_decides (kind : ErrorKind) (cause : ErrorCause) :
    Decides (fail kind cause : RuleM α) fun _ => .stop kind cause :=
  fun _ => .stop rfl

theorem refuse_decides (kind : ErrorKind) (expectation : Expectation) :
    Decides (refuse kind expectation : RuleM α) fun front =>
      .stop (refusalKind kind front) (.expected expectation) :=
  fun _ => .stop rfl

@[simp] theorem advanced_cursor (state : State) : state.advanced.cursor = state.cursor.next := by
  unfold State.advanced
  cases front : state.cursor.peek with
  | none => exact (Cursor.next_eq_self front).symm
  | some token => rfl

theorem advance_decides : Decides advance fun _ => .take () :=
  fun start => .take (advanced_cursor start)

theorem accept_decides (lexeme : Token) : Decides (accept lexeme) fun front =>
    if front = some lexeme then .take true else .leave false := by
  intro start
  rw [run_accept]
  by_cases front : start.cursor.peek = some lexeme
  · simpa [front] using .take rfl
  · simpa [front] using .leave rfl

/-- The operator at the front, if it is one that is admitted. -/
def admitted (admits : Operator → Bool) (front : Option Token) : Option Operator :=
  (front.bind Operator.ofText?).filter admits

theorem acceptOperator_decides (admits : Operator → Bool) :
    Decides (acceptOperator admits) fun front =>
      match admitted admits front with
      | some operator => .take (some operator)
      | none => .leave none := by
  intro start
  rw [run_acceptOperator]
  change Step.Describes _ (match admitted admits start.cursor.peek with
    | some operator => .take (some operator)
    | none => .leave none) (match admitted admits start.cursor.peek with
    | some operator => .ok (some operator) ⟨start.cursor.next, start.log⟩
    | none => .ok none start)
  cases admitted admits start.cursor.peek with
  | none => exact .leave rfl
  | some operator => exact .take rfl

theorem require_decides (lexeme : Token) (expectation : Expectation) :
    Decides (require lexeme expectation) fun front =>
      if front = some lexeme then .take ()
      else .stop (refusalKind .unexpectedToken front) (.expected expectation) := by
  intro start
  rw [run_require]
  by_cases front : start.cursor.peek = some lexeme
  · simpa [front] using .take rfl
  · simpa [front] using refuse_decides .unexpectedToken expectation start

theorem requireEnd_decides (expectation : Expectation) :
    Decides (requireEnd expectation) fun front =>
      if front = none then .leave () else .stop .unexpectedToken (.expected expectation) := by
  intro start
  rw [run_requireEnd]
  cases front : start.cursor.peek with
  | none => simpa using .leave rfl
  | some token =>
      simpa [front, refusalKind] using refuse_decides .unexpectedToken expectation start

theorem name_decides (settings : Settings) (kind : ErrorKind) (expectation : Expectation) :
    Decides (name settings kind expectation) fun front =>
      match front.filter fun token => token.isName settings.keyword with
      | some token => .take token
      | none => .stop (refusalKind kind front) (.expected expectation) := by
  intro start
  rw [name, EStateM.run_bind, run_peek]
  cases front : start.cursor.peek with
  | none => simpa [front] using refuse_decides kind expectation start
  | some token =>
      by_cases named : token.isName settings.keyword
      · simpa [named, Option.filter] using .take (advanced_cursor start)
      · simpa [named, front, Option.filter] using refuse_decides kind expectation start

theorem operand_decides (settings : Settings) :
    Decides (operand settings) fun front =>
      match front with
      | some token =>
          match Tree.ofOperand token settings.keyword with
          | .ok tree => .take tree
          | .error cause => .stop .unexpectedToken cause
      | none => .stop .endOfInput (.expected .expression) := by
  intro start
  rw [operand, EStateM.run_bind, run_peek]
  cases front : start.cursor.peek with
  | none => simpa [front, refusalKind] using refuse_decides .unexpectedToken .expression start
  | some token =>
      cases read : Tree.ofOperand token settings.keyword with
      | ok tree => simpa [read] using .take (advanced_cursor start)
      | error cause => simpa [read] using .stop rfl

/-! ## What is known after a step -/

/-- A rule takes one token only. -/
abbrev Requires (rule : RuleM Unit) (lexeme : Token) (kind : Option Token → ErrorKind)
    (cause : ErrorCause) : Prop :=
  Decides rule fun front => if front = some lexeme then .take () else .stop (kind front) cause

/-- A token that was required stood at the front. -/
theorem Requires.peek_of_ok {rule : RuleM Unit} {lexeme : Token}
    {kind : Option Token → ErrorKind} {cause : ErrorCause}
    (decides : Requires rule lexeme kind cause) {value : Unit}
    (run : rule.run start = .ok value finish) :
    start.cursor.peek = some lexeme ∧ finish.cursor = start.cursor.next := by
  by_cases front : start.cursor.peek = some lexeme
  · rcases decides.of_ok run with ⟨decision, -⟩ | ⟨-, moved⟩
    · rw [if_pos front] at decision
      cases decision
    · exact ⟨front, moved⟩
  · rcases decides.of_ok run with ⟨decision, -⟩ | ⟨decision, -⟩
    · rw [if_neg front] at decision
      cases decision
    · rw [if_neg front] at decision
      cases decision

theorem peek_of_require {lexeme : Token} {expectation : Expectation} {value : Unit}
    (run : (require lexeme expectation).run start = .ok value finish) :
    start.cursor.peek = some lexeme ∧ finish.cursor = start.cursor.next :=
  Requires.peek_of_ok (require_decides lexeme expectation) run

/-- Where the end was required, no token remained. -/
theorem peek_of_requireEnd {expectation : Expectation} {value : Unit}
    (run : (requireEnd expectation).run start = .ok value finish) :
    start.cursor.peek = none ∧ finish.cursor = start.cursor := by
  rcases (requireEnd_decides expectation).of_ok run with ⟨decision, same⟩ | ⟨decision, -⟩
  · split at decision
    next front => exact ⟨front, same⟩
    next => cases decision
  · split at decision <;> cases decision

/-- A name is read off the front token. -/
theorem peek_of_name {settings : Settings} {kind : ErrorKind} {expectation : Expectation}
    {token : Token} (run : (name settings kind expectation).run start = .ok token finish) :
    start.cursor.peek = some token ∧ token.isName settings.keyword = true ∧
      finish.cursor = start.cursor.next := by
  rcases (name_decides settings kind expectation).of_ok run with ⟨decision, -⟩ | ⟨decision, moved⟩
  · split at decision <;> cases decision
  · split at decision
    next named found =>
      cases decision
      rw [Option.filter_eq_some_iff] at found
      exact ⟨found.1, found.2, moved⟩
    next => cases decision

theorem run_name_of_none {settings : Settings} {kind : ErrorKind} {expectation : Expectation}
    (ended : start.cursor.peek = none) :
    (name settings kind expectation).run start = (refuse kind expectation).run start := by
  rw [name, EStateM.run_bind, run_peek, ended]

end Grammar

end BlockLang
