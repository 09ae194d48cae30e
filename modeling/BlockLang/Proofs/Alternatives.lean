import BlockLang.Proofs.Independence

/-!
# No reading of a parenthesis is lost

An atom that begins with a parenthesis commits itself to a group as soon as one can be read, and
gives up a comparison for good where the group nests too deep. Neither loses anything: at most one
of the two readings succeeds, so the atom succeeds exactly where one of them does, and it does not
matter which of them is tried first.
-/

namespace BlockLang.Grammar

variable {α : Type} {settings : Settings} {levels : Nat} {start : State}

/-! ## What a rule reads -/

/-- The value that a rule gives and where it leaves the cursor, if it succeeds. -/
def success (rule : RuleM α) (start : State) : Option (α × Cursor) :=
  match outcome rule start with
  | (.ok value, cursor) => some (value, cursor)
  | (.error _, _) => none

theorem success_of_ok {rule : RuleM α} {value : α} {finish : State}
    (run : rule.run start = .ok value finish) :
    success rule start = some (value, finish.cursor) := by
  rw [success, outcome_of_ok run]

theorem success_of_error {rule : RuleM α} {error : SyntaxError} {finish : State}
    (run : rule.run start = .error error finish) : success rule start = none := by
  rw [success, outcome_of_error run]

theorem success_eq_none_iff {rule : RuleM α} :
    success rule start = none ↔ ∃ error finish, rule.run start = .error error finish := by
  cases run : rule.run start with
  | ok value finish => simp [success_of_ok run]
  | error error finish => simp [success_of_error run]

/-- What a local rule reads depends on the cursor alone. -/
theorem Tracks.success_eq {rule : RuleM α} (tracks : Local rule) {start' : State}
    (same : start'.cursor = start.cursor) : success rule start' = success rule start := by
  rw [success, success, tracks.outcome_eq same fun _ => trivial]

/-- Tries a rule, and where it fails another one from the same place. -/
def inTurn (first second : RuleM α) : RuleM α := fun start =>
  match first.run start with
  | .ok value finish => .ok value finish
  | .error _ stop => second.run (stop.back start.cursor)

theorem success_inTurn (first : RuleM α) {second : RuleM α} (tracks : Local second) :
    success (inTurn first second) start = (success first start).or (success second start) := by
  cases run : first.run start with
  | ok value finish =>
      have whole : (inTurn first second).run start = .ok value finish := by
        change inTurn first second start = _
        rw [inTurn, run]
      rw [success_of_ok run, success_of_ok whole]
      rfl
  | error error stop =>
      have whole : (inTurn first second).run start = second.run (stop.back start.cursor) := by
        change inTurn first second start = _
        rw [inTurn, run]
      have again : success second (stop.back start.cursor) = success second start :=
        tracks.success_eq rfl
      rw [success_of_error run, Option.none_or, ← again, success, success, outcome, outcome, whole]

/-! ## Groups and comparisons -/

/-- At most one of a group and a comparison can be read. -/
theorem group_or_comparison_fails (settings : Settings) (levels : Nat)
    (opens : start.cursor.peek = some "(") :
    success (conditionGroup settings levels) start = none ∨
      success (comparison settings levels) start = none := by
  cases run : (comparison settings levels).run start with
  | ok tree finish =>
      obtain ⟨error, stop, refused, -, -⟩ := conditionGroup_of_comparison opens rfl run
      exact .inl (success_of_error refused)
  | error error finish => exact .inr (success_of_error run)

/-- Where a group nests too deep no comparison can be read. -/
theorem comparison_fails_of_tooDeep (opens : start.cursor.peek = some "(")
    (deep : TooDeep (conditionGroup settings levels) start) :
    success (comparison settings levels) start = none := by
  cases run : (comparison settings levels).run start with
  | ok tree finish =>
      obtain ⟨error, stop, refused, shallow, -⟩ := conditionGroup_of_comparison opens rfl run
      obtain ⟨error', given, kind⟩ := deep
      rw [outcome_of_error refused] at given
      cases given
      exact absurd kind shallow
  | error error finish => exact success_of_error run

/-- The atom reads what the group reads, or else what the comparison reads. -/
theorem success_atom (opens : start.cursor.peek = some "(") :
    success (atom settings levels) start =
      (success (conditionGroup settings levels) start).or
        (success (comparison settings levels) start) := by
  have again (stop : State) : success (comparison settings levels) (stop.back start.cursor) =
      success (comparison settings levels) start :=
    Tracks.success_eq (comparison_tracks (.refl settings levels)) rfl
  have reading := openAtom_run settings levels opens
  cases run : (atom settings levels).run start with
  | ok tree finish =>
      rw [run] at reading
      rw [success_of_ok run]
      cases reading with
      | group grouped =>
          rw [success_of_ok grouped]
          rfl
      | @comparison first stop _ _ refused shallow compared =>
          rw [success_of_error refused, ← again stop, success_of_ok compared]
          rfl
  | error error finish =>
      rw [run] at reading
      rw [success_of_error run]
      cases reading with
      | tooDeep refused deep =>
          have given := tooDeep_iff.mpr ⟨_, _, refused, deep⟩
          rw [success_of_error refused, comparison_fails_of_tooDeep opens given]
          rfl
      | @neither first second stop _ refused shallow compared =>
          rw [success_of_error refused, ← again stop, success_of_error compared]
          rfl

/-- From any state before a parenthesis at most one of a group and a comparison can be read, and no
comparison where the group nests too deep. So the atom reads exactly what one of them reads, and
what it reads does not depend on the order in which they are tried. -/
theorem atom_loses_nothing (settings : Settings) (levels : Nat) {start : State}
    (opens : start.cursor.peek = some "(") :
    (success (conditionGroup settings levels) start = none ∨
      success (comparison settings levels) start = none) ∧
    (TooDeep (conditionGroup settings levels) start →
      ∃ error finish, (comparison settings levels).run start = .error error finish) ∧
    (∀ tree cursor, success (atom settings levels) start = some (tree, cursor) ↔
      success (conditionGroup settings levels) start = some (tree, cursor) ∨
        success (comparison settings levels) start = some (tree, cursor)) ∧
    success (atom settings levels) start =
      success (inTurn (conditionGroup settings levels) (comparison settings levels)) start ∧
    success (atom settings levels) start =
      success (inTurn (comparison settings levels) (conditionGroup settings levels)) start := by
  have group := conditionGroup_local settings levels
  have compared : Local (comparison settings levels) := comparison_tracks (.refl settings levels)
  have exclusion := group_or_comparison_fails settings levels opens
  rw [success_inTurn _ group, success_inTurn _ compared, success_atom opens]
  refine ⟨exclusion, fun deep => success_eq_none_iff.mp (comparison_fails_of_tooDeep opens deep),
    ?_, rfl, ?_⟩
  · rcases exclusion with refused | refused <;> simp [refused]
  · rcases exclusion with refused | refused <;> simp [refused]

/-- The group fails behind the variable, since no relation follows it there, and the comparison is
read from the same parenthesis. -/
theorem atom_loses_nothing_operand :
    ∃ start : State, start.cursor.rest = ["(", "a", ")", "<", "b"] ∧
      start.cursor.peek = some "(" ∧
      success (conditionGroup {} 1) start = none ∧
      success (atom {} 1) start =
        some (.binary .less (.var "a") (.var "b"), start.cursor.rewind ⟨5⟩) := by
  refine ⟨⟨.ofList ["(", "a", ")", "<", "b"], #[]⟩, rfl, rfl, ?_⟩
  have read : success (comparison {} 1) ⟨.ofList ["(", "a", ")", "<", "b"], #[]⟩ =
      some (.binary .less (.var "a") (.var "b"),
        (Cursor.ofList ["(", "a", ")", "<", "b"]).rewind ⟨5⟩) := rfl
  obtain ⟨exclusion, -, reads, -⟩ :=
    @atom_loses_nothing {} 1 ⟨.ofList ["(", "a", ")", "<", "b"], #[]⟩ rfl
  refine ⟨exclusion.resolve_right ?_, (reads _ _).mpr (.inr read)⟩
  rw [read]
  exact Option.some_ne_none _

end BlockLang.Grammar
