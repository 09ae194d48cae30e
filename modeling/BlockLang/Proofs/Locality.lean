import BlockLang.Proofs.Lookahead

/-!
# Loops and arithmetic are local

A loop is bounded by the number of tokens that remain, so two runs over different inputs have
different bounds. A bound that is large enough makes no difference, since each round consumes a
token; so loops track each other when their rounds do. From this the arithmetic rules track each
other under any limits that do not shrink.
-/

namespace BlockLang.Grammar

variable {α : Type} {strict : Prop} {start : State}

/-! ## Bounds -/

/-- Without tokens there is no front token. -/
theorem peek_eq_none_of_remaining {cursor : Cursor} (exhausted : cursor.remaining = 0) :
    cursor.peek = none := by
  rw [← Cursor.length_rest, List.length_eq_zero_iff] at exhausted
  rw [← Cursor.head?_rest, exhausted]
  rfl

/-- A token that is consumed remains no longer. -/
theorem remaining_next_lt {cursor : Cursor} {token : Token} (front : cursor.peek = some token) :
    cursor.next.remaining < cursor.remaining := by
  rw [← Cursor.length_rest, ← Cursor.length_rest, Cursor.rest_eq_cons front, List.length_cons]
  exact Nat.lt_succ_self _

theorem remaining_lt_of_name {settings : Settings} {kind : ErrorKind} {expectation : Expectation}
    {token : Token} {finish : State}
    (run : (name settings kind expectation).run start = .ok token finish) :
    finish.cursor.remaining < start.cursor.remaining := by
  obtain ⟨front, -, moved⟩ := peek_of_name run
  rw [moved]
  exact remaining_next_lt front

/-- What holds of a state if it holds of all states at which fewer tokens remain holds of all. -/
theorem fewer_tokens {motive : State → Prop}
    (step : ∀ start, (∀ later : State, later.cursor.remaining < start.cursor.remaining →
      motive later) → motive start) (start : State) : motive start := by
  induction size : start.cursor.remaining using Nat.strongRecOn generalizing start with
  | ind size ih => exact step start fun later fewer => ih _ (size ▸ fewer) later rfl

/-- A bounded loop over some accumulated data is made of rounds. Each round goes on only after it
has consumed a token, and without tokens no round goes on. -/
structure IsLoop {σ : Type} (loop : Nat → σ → RuleM α) (round : (σ → RuleM α) → σ → RuleM α) :
    Prop where
  zero : ∀ (further : σ → RuleM α) (data : σ) (start : State), start.cursor.remaining = 0 →
    (loop 0 data).run start = (round further data).run start
  succ : ∀ (bound : Nat) (data : σ), loop (bound + 1) data = round (loop bound) data
  congr : ∀ (further further' : σ → RuleM α) (data : σ) (start : State),
    (∀ (data : σ) (later : State), later.cursor.remaining < start.cursor.remaining →
      (further data).run later = (further' data).run later) →
    (round further data).run start = (round further' data).run start

namespace IsLoop

variable {σ : Type} {loop loop' : Nat → σ → RuleM α} {round round' : (σ → RuleM α) → σ → RuleM α}

/-- All bounds that are at least the number of tokens that remain are the same to a loop. -/
theorem saturates (isLoop : IsLoop loop round) (data : σ) (start : State) {bound bound' : Nat}
    (large : start.cursor.remaining ≤ bound) (large' : start.cursor.remaining ≤ bound') :
    (loop bound data).run start = (loop bound' data).run start := by
  induction bound generalizing data start bound' with
  | zero =>
      have exhausted : start.cursor.remaining = 0 := Nat.le_zero.mp large
      cases bound' with
      | zero => rfl
      | succ bound' =>
          rw [isLoop.succ]
          exact isLoop.zero _ data start exhausted
  | succ bound ih =>
      cases bound' with
      | zero =>
          rw [isLoop.succ]
          exact (isLoop.zero _ data start (Nat.le_zero.mp large')).symm
      | succ bound' =>
          rw [isLoop.succ, isLoop.succ]
          apply isLoop.congr
          intro data later shorter
          exact ih data later (by omega) (by omega)

theorem run_remaining (isLoop : IsLoop loop round) (data : σ) (start : State) {bound : Nat}
    (large : start.cursor.remaining ≤ bound) :
    (remaining >>= fun bound => loop bound data).run start = (loop bound data).run start := by
  rw [EStateM.run_bind, Grammar.run_remaining]
  exact isLoop.saturates data start (Nat.le_refl _) large

/-- A loop that is bounded by the tokens that remain is a round and the same loop again. -/
theorem unfold (isLoop : IsLoop loop round) (data : σ) :
    (remaining >>= fun bound => loop bound data) =
      round (fun data => remaining >>= fun bound => loop bound data) data := by
  funext start
  change EStateM.run _ start = EStateM.run _ start
  rw [isLoop.run_remaining data start (Nat.le_succ _), isLoop.succ]
  apply isLoop.congr
  intro data later shorter
  exact (isLoop.run_remaining data later (Nat.le_of_lt shorter)).symm

/-- Loops track each other when their rounds do. -/
theorem tracks (isLoop : IsLoop loop round) (isLoop' : IsLoop loop' round')
    (zero : ∀ data, Tracks strict (loop 0 data) (loop' 0 data))
    (rounds : ∀ further further', (∀ data, Tracks strict (further data) (further' data)) →
      ∀ data, Tracks strict (round further data) (round' further' data)) (data : σ) :
    Tracks strict (remaining >>= fun bound => loop bound data)
      (remaining >>= fun bound => loop' bound data) := by
  have bounded : ∀ bound data, Tracks strict (loop bound data) (loop' bound data) := by
    intro bound
    induction bound with
    | zero => exact zero
    | succ bound ih =>
        intro data
        rw [isLoop.succ, isLoop'.succ]
        exact rounds _ _ ih data
  intro start start'
  have both := bounded (max start.cursor.remaining start'.cursor.remaining) data start start'
  have left := isLoop.run_remaining data start
    (Nat.le_max_left start.cursor.remaining start'.cursor.remaining)
  have right := isLoop'.run_remaining data start'
    (Nat.le_max_right start.cursor.remaining start'.cursor.remaining)
  constructor
  · intro value finish run
    rw [left] at run
    rw [right]
    exact both.ok run
  · intro error finish run
    rw [left] at run
    rw [right]
    exact both.error run

end IsLoop

/-! ## Chains of operands -/

/-- The operands that follow a first one. -/
def chainRest (admits : Operator → Bool) (operand : RuleM Tree) (left : Tree) : RuleM Tree := do
  chainFrom admits operand (← remaining) left

theorem chain_eq (admits : Operator → Bool) (operand : RuleM Tree) :
    chain admits operand = operand >>= chainRest admits operand := rfl

/-- One round of a chain reads an operator and an operand. -/
def chainRound (admits : Operator → Bool) (operand : RuleM Tree) (further : Tree → RuleM Tree)
    (left : Tree) : RuleM Tree := do
  match ← acceptOperator admits with
  | some operator =>
      let right ← operand
      further (.binary operator left right)
  | none => return left

theorem peek_of_admitted {admits : Operator → Bool} {front : Option Token} {operator : Operator}
    (found : admitted admits front = some operator) :
    front = some operator.text ∧ admits operator = true := by
  rw [admitted, Option.filter_eq_some_iff] at found
  obtain ⟨bound, holds⟩ := found
  obtain ⟨token, rfl, read⟩ := Option.bind_eq_some_iff.mp bound
  rw [Operator.ofText?_eq_some_iff.mp read]
  exact ⟨rfl, holds⟩

/-- An operator that is accepted is consumed. -/
theorem remaining_lt_of_acceptOperator {admits : Operator → Bool} {operator : Operator}
    {finish : State} (run : (acceptOperator admits).run start = .ok (some operator) finish) :
    finish.cursor.remaining < start.cursor.remaining := by
  rcases (acceptOperator_decides admits).of_ok run with ⟨decision, -⟩ | ⟨decision, moved⟩
  · split at decision <;> cases decision
  · split at decision
    next found =>
        rw [moved]
        exact remaining_next_lt (peek_of_admitted found).1
    next => cases decision

theorem admitted_text {admits : Operator → Bool} {operator : Operator}
    (holds : admits operator = true) : admitted admits (some operator.text) = some operator := by
  simp [admitted, Option.filter, holds]

theorem run_chainRound_of_admitted {admits : Operator → Bool} {operand : RuleM Tree}
    {further : Tree → RuleM Tree} {left : Tree} {operator : Operator}
    (found : admitted admits start.cursor.peek = some operator) :
    (chainRound admits operand further left).run start =
      (operand >>= fun right => further (.binary operator left right)).run
        ⟨start.cursor.next, start.log⟩ := by
  rw [admitted] at found
  rw [chainRound, EStateM.run_bind, run_acceptOperator, found]

theorem run_chainRound_of_none {admits : Operator → Bool} {operand : RuleM Tree}
    {further : Tree → RuleM Tree} {left : Tree}
    (absent : admitted admits start.cursor.peek = none) :
    (chainRound admits operand further left).run start = .ok left start := by
  rw [admitted] at absent
  rw [chainRound, EStateM.run_bind, run_acceptOperator, absent]
  rfl

/-- Each round of a chain consumes an operator. -/
theorem chain_isLoop {admits : Operator → Bool} {operand : RuleM Tree} (tracks : Local operand) :
    IsLoop (chainFrom admits operand) (chainRound admits operand) where
  zero := by
    intro further left start exhausted
    rw [run_chainRound_of_none]
    · rfl
    · rw [peek_eq_none_of_remaining exhausted]
      rfl
  succ := fun _ _ => rfl
  congr := by
    intro further further' left start agree
    cases found : admitted admits start.cursor.peek with
    | none => rw [run_chainRound_of_none found, run_chainRound_of_none found]
    | some operator =>
        have shorter := remaining_next_lt (peek_of_admitted found).1
        rw [run_chainRound_of_admitted found, run_chainRound_of_admitted found, EStateM.run_bind,
          EStateM.run_bind]
        cases run : operand.run ⟨start.cursor.next, start.log⟩ with
        | error error middle => rfl
        | ok right middle =>
            have kept := tracks.remaining_le_of_ok run
            exact agree _ middle (Nat.lt_of_le_of_lt kept shorter)

theorem chainRest_unfold {admits : Operator → Bool} {operand : RuleM Tree}
    (tracks : Local operand) (left : Tree) :
    chainRest admits operand left =
      chainRound admits operand (chainRest admits operand) left :=
  (chain_isLoop tracks).unfold left

/-- A chain goes on with an operator that it admits. -/
theorem run_chainRest_of_admitted {admits : Operator → Bool} {operand : RuleM Tree}
    (tracks : Local operand) {left : Tree} {operator : Operator}
    (found : admitted admits start.cursor.peek = some operator) :
    (chainRest admits operand left).run start =
      (operand >>= fun right => chainRest admits operand (.binary operator left right)).run
        ⟨start.cursor.next, start.log⟩ := by
  rw [chainRest_unfold tracks, run_chainRound_of_admitted found]

/-- A chain ends before a token that is no operator of its own. -/
theorem run_chainRest_of_none {admits : Operator → Bool} {operand : RuleM Tree}
    (tracks : Local operand) {left : Tree} (absent : admitted admits start.cursor.peek = none) :
    (chainRest admits operand left).run start = .ok left start := by
  rw [chainRest_unfold tracks, run_chainRound_of_none absent]

theorem acceptOperator_tracks (admits : Operator → Bool) :
    Tracks strict (acceptOperator admits) (acceptOperator admits) :=
  (acceptOperator_decides admits).tracks_self

/-- Chains track each other when their operands do. -/
theorem chainRest_tracks {admits : Operator → Bool} {operand operand' : RuleM Tree}
    (tracks : Tracks strict operand operand') (first : Local operand) (second : Local operand')
    (left : Tree) :
    Tracks strict (chainRest admits operand left) (chainRest admits operand' left) := by
  refine (chain_isLoop first).tracks (chain_isLoop second) (fun left => .pure left) ?_ left
  intro further further' ih left
  refine (acceptOperator_tracks admits).bind fun found => ?_
  cases found with
  | none => exact .pure left
  | some operator => exact tracks.bind fun right => ih (.binary operator left right)

theorem chain_tracks {admits : Operator → Bool} {operand operand' : RuleM Tree}
    (tracks : Tracks strict operand operand') (first : Local operand) (second : Local operand') :
    Tracks strict (chain admits operand) (chain admits operand') := by
  rw [chain_eq, chain_eq]
  exact tracks.bind fun left => chainRest_tracks tracks first second left

theorem chain_local {admits : Operator → Bool} {operand : RuleM Tree} (tracks : Local operand) :
    Local (chain admits operand) :=
  chain_tracks tracks tracks tracks

/-! ## Limits -/

/-- Settings and levels that allow at least what others allow. Under the strict reading they allow
nothing else. -/
structure Widens (strict : Prop) (settings : Settings) (levels : Nat) (settings' : Settings)
    (levels' : Nat) : Prop where
  keyword : settings'.keyword = settings.keyword
  le : levels ≤ levels'
  eq : strict → settings' = settings ∧ levels' = levels

namespace Widens

variable {settings settings' : Settings} {levels levels' : Nat}

theorem refl (settings : Settings) (levels : Nat) : Widens True settings levels settings levels :=
  ⟨rfl, Nat.le_refl _, fun _ => ⟨rfl, rfl⟩⟩

theorem pred (widens : Widens strict settings (levels + 1) settings' (levels' + 1)) :
    Widens strict settings levels settings' levels' := by
  refine ⟨widens.keyword, Nat.le_of_succ_le_succ widens.le, ?_⟩
  intro truth
  obtain ⟨same, succ⟩ := widens.eq truth
  exact ⟨same, Nat.succ.inj succ⟩

/-- More levels than some are at least one. -/
theorem exists_succ (widens : Widens strict settings (levels + 1) settings' levels') :
    ∃ more, levels' = more + 1 :=
  ⟨levels' - 1, by have := widens.le; omega⟩

end Widens

/-- A rule without levels is tracked by another only where that has none either. -/
theorem tooDeep_tracks {settings : Settings} {rule : RuleM α}
    (same : strict → rule = tooDeep settings) : Tracks strict (tooDeep settings) rule := by
  intro start start'
  constructor
  · intro value finish run
    cases run
  · intro error finish run
    have decides : Decides (tooDeep settings : RuleM α) fun _ => _ :=
      fail_decides .nestingTooDeep (.nestingExceeds settings.maxDepth)
    have tracks : Tracks strict (tooDeep settings : RuleM α) (tooDeep settings) :=
      decides.tracks_self
    obtain ⟨read, seen, reads, part, behind, follow⟩ := (tracks start start').error run
    refine ⟨read, seen, reads, part, behind, ?_⟩
    intro agree deep
    cases run
    rw [same (deep rfl)]
    exact follow agree deep

/-! ## Arithmetic -/

variable {settings settings' : Settings} {levels levels' : Nat}

theorem check_tracks (lexeme : Token) : Tracks strict (check lexeme) (check lexeme) :=
  (check_decides lexeme).tracks_self

theorem require_tracks (lexeme : Token) (expectation : Expectation) :
    Tracks strict (require lexeme expectation) (require lexeme expectation) :=
  (require_decides lexeme expectation).tracks_self

theorem refuse_tracks (kind : ErrorKind) (expectation : Expectation) :
    Tracks strict (refuse kind expectation : RuleM α) (refuse kind expectation) :=
  (refuse_decides kind expectation).tracks_self

theorem operand_tracks (keyword : settings'.keyword = settings.keyword) :
    Tracks strict (operand settings) (operand settings') := by
  apply (operand_decides settings).tracks
  rw [← keyword]
  exact operand_decides settings'

section Groups

variable {group group' : RuleM Tree}

theorem factorOver_tracks (keyword : settings'.keyword = settings.keyword)
    (tracks : Tracks strict group group') :
    Tracks strict (factorOver settings group) (factorOver settings' group') :=
  (check_tracks "(").bind fun _ => .ite tracks (operand_tracks keyword)

theorem factorOver_local (tracks : Local group) : Local (factorOver settings group) :=
  factorOver_tracks rfl tracks

theorem termOver_tracks (keyword : settings'.keyword = settings.keyword)
    (tracks : Tracks strict group group') (first : Local group) (second : Local group') :
    Tracks strict (termOver settings group) (termOver settings' group') :=
  chain_tracks (factorOver_tracks keyword tracks) (factorOver_local first)
    (factorOver_local second)

theorem termOver_local (tracks : Local group) : Local (termOver settings group) :=
  termOver_tracks rfl tracks tracks tracks

theorem expressionOver_tracks (keyword : settings'.keyword = settings.keyword)
    (tracks : Tracks strict group group') (first : Local group) (second : Local group') :
    Tracks strict (expressionOver settings group) (expressionOver settings' group') :=
  chain_tracks (termOver_tracks keyword tracks first second) (termOver_local first)
    (termOver_local second)

theorem expressionOver_local (tracks : Local group) : Local (expressionOver settings group) :=
  expressionOver_tracks rfl tracks tracks tracks

end Groups

theorem advance_tracks : Tracks strict advance advance :=
  advance_decides.tracks_self

theorem arithmeticGroup_local (settings : Settings) (levels : Nat) :
    Local (arithmeticGroup settings levels) := by
  induction levels with
  | zero => exact tooDeep_tracks fun _ => rfl
  | succ levels ih =>
      exact advance_tracks.bind fun _ => (expressionOver_local ih).bind fun tree =>
        (require_tracks ")" .closeOperand).bind fun _ => .pure tree

/-- Groups track each other when the limits do not shrink. -/
theorem arithmeticGroup_tracks (widens : Widens strict settings levels settings' levels') :
    Tracks strict (arithmeticGroup settings levels) (arithmeticGroup settings' levels') := by
  induction levels generalizing levels' with
  | zero =>
      refine tooDeep_tracks fun truth => ?_
      obtain ⟨rfl, rfl⟩ := widens.eq truth
      rfl
  | succ levels ih =>
      obtain ⟨more, rfl⟩ := widens.exists_succ
      refine advance_tracks.bind fun _ => Tracks.bind ?_ fun tree =>
        (require_tracks ")" .closeOperand).bind fun _ => .pure tree
      exact expressionOver_tracks widens.keyword (ih widens.pred)
        (arithmeticGroup_local settings levels) (arithmeticGroup_local settings' more)

theorem expression_tracks (widens : Widens strict settings levels settings' levels') :
    Tracks strict (expression settings levels) (expression settings' levels') :=
  expressionOver_tracks widens.keyword (arithmeticGroup_tracks widens)
    (arithmeticGroup_local settings levels) (arithmeticGroup_local settings' levels')

theorem expression_local (settings : Settings) (levels : Nat) :
    Local (expression settings levels) :=
  expressionOver_local (arithmeticGroup_local settings levels)

end BlockLang.Grammar
