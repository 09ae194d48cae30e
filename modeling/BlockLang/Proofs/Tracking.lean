import BlockLang.Proofs.Stretch

/-!
# Rules that track each other

One rule tracks another when it does over its tokens what the other does over others, as long as the
tokens agree up to the one at which the other stops. A rule that tracks itself looks no farther than
the token behind what it reads or the token that it refuses, and neither the tokens before the
cursor nor the record of events matters to it. Errors of nesting are tracked only on request, since
rules with different numbers of levels disagree on them.
-/

namespace BlockLang.Grammar

variable {α β : Type} {strict : Prop} {first second : RuleM α} {start start' finish : State}

/-- The second rule at the second state does what the first does at the first state. -/
structure TracksAt (strict : Prop) (first second : RuleM α) (start start' : State) : Prop where
  ok : ∀ {value finish}, first.run start = .ok value finish →
    ∃ tokens, start.cursor.Reads tokens finish.cursor ∧
      (start'.cursor.Continues tokens finish.cursor.peek →
        ∃ finish', second.run start' = .ok value finish' ∧
          start'.cursor.Reads tokens finish'.cursor)
  error : ∀ {error finish}, first.run start = .error error finish →
    ∃ read seen, start.cursor.Reads read finish.cursor ∧ read <+: seen ∧
      error.LiesBehind seen start.cursor ∧
      (start'.cursor.Continues seen error.found → (error.kind = .nestingTooDeep → strict) →
        ∃ finish', second.run start' =
            .error (error.moved (start'.cursor.position + seen.length)) finish' ∧
          start'.cursor.Reads read finish'.cursor)

/-- The second rule does at any state what the first does at any other. -/
def Tracks (strict : Prop) (first second : RuleM α) : Prop :=
  ∀ start start', TracksAt strict first second start start'

/-- A rule that tracks itself is local. -/
abbrev Local (rule : RuleM α) : Prop := Tracks True rule rule

namespace Tracks

/-- What succeeds reads a stretch of tokens. -/
theorem reads (tracks : Tracks strict first second) {value : α}
    (run : first.run start = .ok value finish) :
    ∃ tokens, start.cursor.Reads tokens finish.cursor := by
  obtain ⟨tokens, reads, -⟩ := (tracks start start).ok run
  exact ⟨tokens, reads⟩

/-- What fails stops between its start and its error. -/
theorem lies (tracks : Tracks strict first second) {error : SyntaxError}
    (run : first.run start = .error error finish) :
    ∃ read seen, start.cursor.Reads read finish.cursor ∧ read <+: seen ∧
      error.LiesBehind seen start.cursor := by
  obtain ⟨read, seen, reads, part, lies, -⟩ := (tracks start start).error run
  exact ⟨read, seen, reads, part, lies⟩

/-- The second rule follows the first to where it succeeds. -/
theorem follow_ok (tracks : Tracks strict first second) {value : α} {tokens : List Token}
    (run : first.run start = .ok value finish) (reads : start.cursor.Reads tokens finish.cursor)
    (agree : start'.cursor.Continues tokens finish.cursor.peek) :
    ∃ finish', second.run start' = .ok value finish' ∧
      start'.cursor.Reads tokens finish'.cursor := by
  obtain ⟨tokens', reads', follow⟩ := (tracks start start').ok run
  obtain rfl : tokens' = tokens := reads'.tokens_eq reads
  exact follow agree

/-- The second rule follows the first to where it fails. -/
theorem follow_error (tracks : Tracks strict first second) {error : SyntaxError}
    {read seen : List Token} (run : first.run start = .error error finish)
    (reads : start.cursor.Reads read finish.cursor) (lies : error.LiesBehind seen start.cursor)
    (agree : start'.cursor.Continues seen error.found)
    (deep : error.kind = .nestingTooDeep → strict) :
    ∃ finish', second.run start' =
        .error (error.moved (start'.cursor.position + seen.length)) finish' ∧
      start'.cursor.Reads read finish'.cursor := by
  obtain ⟨read', seen', reads', -, lies', follow⟩ := (tracks start start').error run
  obtain rfl : read' = read := reads'.tokens_eq reads
  obtain rfl : seen' = seen := lies'.tokens_eq lies
  exact follow agree deep

theorem position_le_of_ok (tracks : Tracks strict first second) {value : α}
    (run : first.run start = .ok value finish) :
    start.cursor.position ≤ finish.cursor.position := by
  obtain ⟨tokens, reads⟩ := tracks.reads run
  exact reads.position_le

theorem remaining_le_of_ok (tracks : Tracks strict first second) {value : α}
    (run : first.run start = .ok value finish) :
    finish.cursor.remaining ≤ start.cursor.remaining := by
  obtain ⟨tokens, reads⟩ := tracks.reads run
  exact reads.remaining_le

theorem position_le_of_error (tracks : Tracks strict first second) {error : SyntaxError}
    (run : first.run start = .error error finish) :
    start.cursor.position ≤ error.position := by
  obtain ⟨read, seen, reads, part, lies⟩ := tracks.lies run
  rw [lies.position_eq]
  exact Nat.le_add_right _ _

/-- A local rule gives the same value from the same cursor, whatever has been recorded. -/
theorem ok_of_cursor_eq (tracks : Tracks strict first second)
    (same : start'.cursor = start.cursor) {value : α}
    (run : first.run start = .ok value finish) :
    ∃ finish', second.run start' = .ok value finish' ∧ finish'.cursor = finish.cursor := by
  obtain ⟨tokens, reads, follow⟩ := (tracks start start').ok run
  rw [same] at follow
  obtain ⟨finish', run', reads'⟩ := follow reads.continues
  exact ⟨finish', run', reads'.finish_eq reads⟩

/-- A local rule gives the same error from the same cursor, whatever has been recorded. -/
theorem error_of_cursor_eq (tracks : Tracks strict first second)
    (same : start'.cursor = start.cursor) {error : SyntaxError}
    (run : first.run start = .error error finish) (deep : error.kind = .nestingTooDeep → strict) :
    ∃ finish', second.run start' = .error error finish' ∧ finish'.cursor = finish.cursor := by
  obtain ⟨read, seen, reads, -, lies, follow⟩ := (tracks start start').error run
  rw [same] at follow
  obtain ⟨finish', run', reads'⟩ := follow lies.found deep
  rw [← lies.position_eq] at run'
  exact ⟨finish', run', reads'.finish_eq reads⟩

/-! ## Sequences and choices -/

theorem pure (value : α) : Tracks strict (Pure.pure value) (Pure.pure value) := by
  intro start start'
  constructor
  · intro value' finish run
    cases run
    exact ⟨[], .refl _, fun _ => ⟨start', rfl, .refl _⟩⟩
  · intro error finish run
    cases run

/-- Sequences track each other when their steps do. -/
theorem bind {next next' : α → RuleM β} (head : Tracks strict first second)
    (tail : ∀ value, Tracks strict (next value) (next' value)) :
    Tracks strict (first >>= next) (second >>= next') := by
  intro start start'
  constructor
  · intro value finish run
    obtain ⟨between, middle, runHead, runTail⟩ := run_bind_ok run
    obtain ⟨tokens, reads⟩ := head.reads runHead
    obtain ⟨tokens', reads'⟩ := (tail between).reads runTail
    refine ⟨tokens ++ tokens', reads.trans reads', ?_⟩
    intro whole
    obtain ⟨middle', runHead', readsHead⟩ :=
      head.follow_ok runHead reads (whole.left reads'.continues)
    obtain ⟨finish', runTail', readsTail⟩ :=
      (tail between).follow_ok runTail reads' (whole.right readsHead)
    exact ⟨finish', (run_bind_of_ok runHead').trans runTail', readsHead.trans readsTail⟩
  · intro error finish run
    rcases run_bind_error run with runHead | ⟨between, middle, runHead, runTail⟩
    · obtain ⟨read, seen, reads, part, lies⟩ := head.lies runHead
      refine ⟨read, seen, reads, part, lies, ?_⟩
      intro whole deep
      obtain ⟨finish', runHead', reads'⟩ := head.follow_error runHead reads lies whole deep
      exact ⟨finish', run_bind_of_error runHead', reads'⟩
    · obtain ⟨tokens, reads⟩ := head.reads runHead
      obtain ⟨read, seen, reads', part, lies⟩ := (tail between).lies runTail
      refine ⟨tokens ++ read, tokens ++ seen, reads.trans reads',
        (List.prefix_append_right_inj _).mpr part, .append reads lies, ?_⟩
      intro whole deep
      obtain ⟨middle', runHead', readsHead⟩ :=
        head.follow_ok runHead reads (whole.left lies.found)
      obtain ⟨finish', runTail', readsTail⟩ :=
        (tail between).follow_error runTail reads' lies (whole.right readsHead) deep
      refine ⟨finish', ?_, readsHead.trans readsTail⟩
      rw [run_bind_of_ok runHead', runTail', readsHead.position_eq, List.length_append,
        Nat.add_assoc]

theorem map (tracks : Tracks strict first second) (f : α → β) :
    Tracks strict (f <$> first) (f <$> second) := by
  rw [map_eq_pure_bind, map_eq_pure_bind]
  exact tracks.bind fun value => .pure (f value)

theorem ite {condition : Prop} [Decidable condition] {other other' : RuleM α}
    (holds : Tracks strict first second) (fails : Tracks strict other other') :
    Tracks strict (if condition then first else other)
      (if condition then second else other') := by
  by_cases truth : condition
  · simpa only [truth, if_true] using holds
  · simpa only [truth, if_false] using fails

end Tracks

/-! ## Outcomes -/

/-- What a rule gives and where it leaves the cursor; what it records is left out. -/
def outcome (rule : RuleM α) (start : State) : Except SyntaxError α × Cursor :=
  match rule.run start with
  | .ok value finish => (.ok value, finish.cursor)
  | .error error finish => (.error error, finish.cursor)

/-- A rule fails because too many levels nest. -/
def TooDeep (rule : RuleM α) (start : State) : Prop :=
  ∃ error, (outcome rule start).1 = .error error ∧ error.kind = .nestingTooDeep

theorem outcome_of_ok {rule : RuleM α} {value : α} (run : rule.run start = .ok value finish) :
    outcome rule start = (.ok value, finish.cursor) := by
  rw [outcome, run]

theorem outcome_of_error {rule : RuleM α} {error : SyntaxError}
    (run : rule.run start = .error error finish) :
    outcome rule start = (.error error, finish.cursor) := by
  rw [outcome, run]

theorem run_of_outcome_ok {rule : RuleM α} {value : α}
    (given : (outcome rule start).1 = .ok value) :
    ∃ finish, rule.run start = .ok value finish := by
  cases run : rule.run start with
  | ok value' finish =>
      rw [outcome_of_ok run] at given
      cases given
      exact ⟨finish, rfl⟩
  | error error finish =>
      rw [outcome_of_error run] at given
      cases given

theorem tooDeep_iff {rule : RuleM α} :
    TooDeep rule start ↔
      ∃ error finish, rule.run start = .error error finish ∧ error.kind = .nestingTooDeep := by
  constructor
  · rintro ⟨error, given, deep⟩
    cases run : rule.run start with
    | ok value finish =>
        rw [outcome_of_ok run] at given
        cases given
    | error error' finish =>
        rw [outcome_of_error run] at given
        cases given
        exact ⟨error, finish, rfl, deep⟩
  · rintro ⟨error, finish, run, deep⟩
    exact ⟨error, by rw [outcome_of_error run], deep⟩

/-- From one cursor a rule has the outcome of the rule that it tracks. -/
theorem Tracks.outcome_eq (tracks : Tracks strict first second)
    (same : start'.cursor = start.cursor) (deep : TooDeep first start → strict) :
    outcome second start' = outcome first start := by
  cases run : first.run start with
  | ok value finish =>
      obtain ⟨finish', run', cursors⟩ := tracks.ok_of_cursor_eq same run
      rw [outcome_of_ok run, outcome_of_ok run', cursors]
  | error error finish =>
      obtain ⟨finish', run', cursors⟩ := tracks.error_of_cursor_eq same run fun kind =>
        deep (tooDeep_iff.mpr ⟨error, finish, run, kind⟩)
      rw [outcome_of_error run, outcome_of_error run', cursors]

end BlockLang.Grammar
