import BlockLang.Proofs.Counting

/-!
# Every call returns

The height of the calls inside each other is bounded by the levels that may nest and not by the
tokens: a rule comes back to itself only inside a level, and there are at most nine calls for each
of them. The loops of the grammar end because each round that does not end one of them consumes a
token. So what a rule gives is what its loops give when nothing bounds the number of their rounds.
-/

namespace BlockLang

namespace Grammar

variable {α : Type} {settings : Settings} {levels : Nat}

/-! ## Rounds -/

/-- The loops of the grammar. -/
inductive Loop where
  | statements
  | names
  | sum
  | product
  | disjunction
  | conjunction
  deriving DecidableEq, Repr

/-- A round of a chain reads an operator and an operand, or ends the chain. -/
def operatorRound (admits : Operator → Bool) (operand : RuleM Tree) (left : Tree) :
    RuleM (ForInStep Tree) := do
  match ← acceptOperator admits with
  | some operator =>
      let right ← operand
      return .yield (.binary operator left right)
  | none => return .done left

/-- A round of a list of names reads a name, and the list goes on behind a comma. -/
def nameRound (settings : Settings) (before : List Token) : RuleM (ForInStep (List Token)) := do
  let first ← name settings .invalidIdentifier .identifier
  if ← accept "," then
    return .yield (before ++ [first])
  else
    return .done (before ++ [first])

/-- A round of a list of statements reads a statement and a separator, or ends the list before a
closing brace. -/
def statementRound (rule : RuleM Tree) (before : List Tree) : RuleM (ForInStep (List Tree)) := do
  match ← peek with
  | none => unterminated .closeBlock
  | some token =>
      if token = "\x7d" then
        return .done before
      else
        let first ← rule
        match ← peek with
        | none => unterminated .separator
        | some separator =>
            if separator = ";" then
              advance
              return .yield (before ++ [first])
            else
              refuse .missingSeparator .separator

namespace Loop

/-- What a loop gathers. -/
@[reducible] def Data : Loop → Type
  | .statements => List Tree
  | .names => List Token
  | .sum | .product | .disjunction | .conjunction => Tree

/-- One round of a loop. -/
def round (settings : Settings) (levels : Nat) : (loop : Loop) → loop.Data →
    RuleM (ForInStep loop.Data)
  | .statements => statementRound (statement settings levels)
  | .names => nameRound settings
  | .sum => operatorRound (·.family == .additive) (term settings levels)
  | .product => operatorRound (·.family == .multiplicative) (factor settings levels)
  | .disjunction =>
      operatorRound (· == .or) (conjunctionOver settings levels (conditionGroup settings levels))
  | .conjunction => operatorRound (· == .and) (atom settings levels)

/-- What a rule reads before its loop. -/
def opening (settings : Settings) (levels : Nat) : (loop : Loop) → RuleM loop.Data
  | .statements => return []
  | .names => do
      require settings.keyword (.word settings.keyword)
      return []
  | .sum => term settings levels
  | .product => factor settings levels
  | .disjunction => conjunctionOver settings levels (conditionGroup settings levels)
  | .conjunction => atom settings levels

/-- The loop from some data on, as a rule runs it. -/
def rest (settings : Settings) (levels : Nat) : (loop : Loop) → loop.Data → RuleM loop.Data
  | .statements, before => (before ++ ·) <$> statementsOver (statement settings levels)
  | .names, before => (before ++ ·) <$> Grammar.names settings
  | .sum, left => chainRest (·.family == .additive) (term settings levels) left
  | .product, left => chainRest (·.family == .multiplicative) (factor settings levels) left
  | .disjunction, left =>
      chainRest (· == .or) (conjunctionOver settings levels (conditionGroup settings levels)) left
  | .conjunction, left => chainRest (· == .and) (atom settings levels) left

/-- The call whose rule has the loop. -/
def call : Loop → Call
  | .statements => .statements
  | .names => .declaration
  | .sum => .expression
  | .product => .term
  | .disjunction => .condition
  | .conjunction => .conjunction

/-- What a rule makes of the data of its loop. -/
def closing : (loop : Loop) → loop.Data → loop.call.Value
  | .names => Tree.declare
  | .statements | .sum | .product | .disjunction | .conjunction => id

/-- A rule with a loop is what it reads before the loop and the loop. -/
theorem rule_call (settings : Settings) (levels : Nat) (loop : Loop) :
    loop.call.rule settings levels =
      loop.closing <$> (loop.opening settings levels >>= loop.rest settings levels) := by
  cases loop with
  | statements =>
      change statementsOver (statement settings levels) = _
      simp only [closing, opening, rest, pure_bind, List.nil_append, id_map']
      exact (id_map _).symm
  | names =>
      change declaration settings = Tree.declare <$>
        ((require settings.keyword (.word settings.keyword) >>= fun _ => pure []) >>=
          rest settings levels .names)
      simp [rest, declaration_eq]
  | sum | product | disjunction | conjunction => exact (id_map _).symm

end Loop

/-- Rounds of a loop from some data and a state on, and what comes of them. Nothing bounds their
number. -/
inductive Repeats {σ : Type} (round : σ → RuleM (ForInStep σ)) :
    σ → State → EStateM.Result SyntaxError State σ → Prop where
  | done {data value : σ} {start finish : State}
      (run : (round data).run start = .ok (.done value) finish) :
      Repeats round data start (.ok value finish)
  | failed {data : σ} {start finish : State} {error : SyntaxError}
      (run : (round data).run start = .error error finish) :
      Repeats round data start (.error error finish)
  | again {data data' : σ} {start middle : State} {result : EStateM.Result SyntaxError State σ}
      (run : (round data).run start = .ok (.yield data') middle)
      (further : Repeats round data' middle result) :
      Repeats round data start result

/-- Each round after which a loop goes on leaves fewer tokens. -/
def Shortens {σ : Type} (round : σ → RuleM (ForInStep σ)) : Prop :=
  ∀ (data data' : σ) (start later : State),
    (round data).run start = .ok (.yield data') later →
      later.cursor.remaining < start.cursor.remaining

/-- What follows a round: the rest of the loop, if the round says so. -/
def followed {σ : Type} (rest : σ → RuleM σ) : ForInStep σ → RuleM σ
  | .yield data => rest data
  | .done value => return value

/-- A loop whose rounds leave fewer tokens ends, and with what the rule gives that is a round and
the same rule again. -/
theorem Shortens.repeats {σ : Type} {round : σ → RuleM (ForInStep σ)} (shortens : Shortens round)
    {rest : σ → RuleM σ} (unfold : ∀ data, rest data = round data >>= followed rest)
    (data : σ) (start : State) : Repeats round data start ((rest data).run start) := by
  refine fewer_tokens
    (motive := fun start => ∀ data, Repeats round data start ((rest data).run start)) ?_ start data
  intro start further data
  rw [unfold, EStateM.run_bind]
  cases run : (round data).run start with
  | error error finish => exact .failed run
  | ok next middle =>
      cases next with
      | done value => exact .done run
      | yield data' =>
          exact .again run (further middle (shortens data data' start middle run) data')

/-! ## Rounds leave fewer tokens -/

theorem operatorRound_shortens {admits : Operator → Bool} {operand : RuleM Tree}
    (tracks : Local operand) : Shortens (operatorRound admits operand) := by
  intro left left' start later run
  obtain ⟨found, middle, accepted, rest⟩ := run_bind_ok run
  cases found with
  | none => cases rest
  | some operator =>
      obtain ⟨right, later', read, yielded⟩ := run_bind_ok rest
      cases yielded
      exact Nat.lt_of_le_of_lt (tracks.remaining_le_of_ok read)
        (remaining_lt_of_acceptOperator accepted)

theorem nameRound_shortens (settings : Settings) : Shortens (nameRound settings) := by
  intro before before' start later run
  obtain ⟨first, middle, named, rest⟩ := run_bind_ok run
  obtain ⟨comma, later', accepted, chosen⟩ := run_bind_ok rest
  have tracks : Local (accept ",") := accept_tracks ","
  have kept := tracks.remaining_le_of_ok accepted
  split at chosen <;> cases chosen
  exact Nat.lt_of_le_of_lt kept (remaining_lt_of_name named)

theorem statementRound_shortens {rule : RuleM Tree} (tracks : Local rule) :
    Shortens (statementRound rule) := by
  intro before before' start later run
  obtain ⟨front, start', looked, chosen⟩ := run_bind_ok run
  cases looked
  split at chosen
  next => cases chosen
  next token front =>
    split at chosen
    next => cases chosen
    next =>
      obtain ⟨first, middle, read, rest⟩ := run_bind_ok chosen
      obtain ⟨behind, middle', looked, chosen⟩ := run_bind_ok rest
      cases looked
      split at chosen
      next => cases chosen
      next separator behind =>
        split at chosen
        next =>
          cases chosen
          have shorter := remaining_next_lt behind
          rw [← advanced_cursor] at shorter
          exact Nat.lt_of_lt_of_le shorter (tracks.remaining_le_of_ok read)
        next => cases chosen

namespace Loop

theorem round_shortens (settings : Settings) (levels : Nat) (loop : Loop) :
    Shortens (loop.round settings levels) := by
  cases loop with
  | statements => exact statementRound_shortens (statement_block_local settings levels).1
  | names => exact nameRound_shortens settings
  | sum => exact operatorRound_shortens (Call.rule_tracks .term (.refl settings levels))
  | product => exact operatorRound_shortens (Call.rule_tracks .factor (.refl settings levels))
  | disjunction =>
      exact operatorRound_shortens (Call.rule_tracks .conjunction (.refl settings levels))
  | conjunction => exact operatorRound_shortens (atom_local settings levels)

end Loop

/-! ## Rules go through the rounds of their loops -/

theorem chainRest_eq_round {admits : Operator → Bool} {operand : RuleM Tree}
    (tracks : Local operand) (left : Tree) :
    chainRest admits operand left =
      operatorRound admits operand left >>= followed (chainRest admits operand) := by
  rw [chainRest_unfold tracks, chainRound, operatorRound, bind_assoc]
  congr 1
  funext found
  cases found with
  | none => rfl
  | some operator => rw [bind_assoc]; rfl

theorem names_eq_round (settings : Settings) (before : List Token) :
    (before ++ ·) <$> names settings =
      nameRound settings before >>= followed fun before => (before ++ ·) <$> names settings := by
  have unfolded : (before ++ ·) <$> names settings =
      (before ++ ·) <$> namesRound settings (fun _ => names settings) () := by
    rw [← names_unfold]
  rw [unfolded, namesRound, nameRound, bind_assoc, map_bind]
  congr 1
  funext first
  rw [bind_assoc, map_bind]
  congr 1
  funext comma
  cases comma with
  | false => rfl
  | true => simp [followed]

theorem statements_eq_round {rule : RuleM Tree} (tracks : Local rule) (before : List Tree) :
    (before ++ ·) <$> statementsOver rule =
      statementRound rule before >>= followed fun before =>
        (before ++ ·) <$> statementsOver rule := by
  have unfolded : (before ++ ·) <$> statementsOver rule =
      (before ++ ·) <$> statementsRound rule (fun _ => statementsOver rule) () := by
    rw [← statementsOver_unfold tracks]
  rw [unfolded, statementsRound, statementRound, bind_assoc, map_bind]
  congr 1
  funext front
  cases front with
  | none => rfl
  | some token =>
      by_cases closes : token = "\x7d"
      · simp [closes, followed]
      · simp only [closes, if_false, bind_assoc, map_bind]
        congr 1
        funext first
        congr 1
        funext behind
        cases behind with
        | none => rfl
        | some separator =>
            by_cases separates : separator = ";"
            · simp [separates, followed]
            · simp only [separates, if_false]
              rfl

namespace Loop

/-- A loop is a round and, if the round says so, the loop again. -/
theorem rest_eq_round (settings : Settings) (levels : Nat) (loop : Loop) (data : loop.Data) :
    loop.rest settings levels data =
      loop.round settings levels data >>= followed (loop.rest settings levels) := by
  cases loop with
  | statements => exact statements_eq_round (statement_block_local settings levels).1 data
  | names => exact names_eq_round settings data
  | sum => exact chainRest_eq_round (Call.rule_tracks .term (.refl settings levels)) data
  | product => exact chainRest_eq_round (Call.rule_tracks .factor (.refl settings levels)) data
  | disjunction =>
      exact chainRest_eq_round (Call.rule_tracks .conjunction (.refl settings levels)) data
  | conjunction => exact chainRest_eq_round (atom_local settings levels) data

end Loop

/-- A rule that opens no level does not run out of height. -/
theorem step_ne_exhausted (rule : RuleM α) (start stop : Counted) :
    (CountedM.step rule).run start ≠ .error .exhausted stop := by
  intro exhausted
  cases run : rule.run start.state with
  | ok value finish =>
      rw [show start = ⟨start.state, start.depth⟩ from rfl, run_step_of_ok run] at exhausted
      cases exhausted
  | error error finish =>
      rw [show start = ⟨start.state, start.depth⟩ from rfl, run_step_of_error run] at exhausted
      cases exhausted

/-- A constant number of calls for each level that may nest is height enough for every call, which
then gives what its rule gives. Behind each round after which a loop goes on fewer tokens remain, so
the loops end without a bound on their rounds, and with what the rules give. -/
theorem calls_return :
    (∃ perLevel, ∀ (settings : Settings) (call : Call) (state : State) (height : Nat),
      perLevel * (settings.maxDepth + 1) ≤ height →
        (call.counted settings height).run ⟨state, 0⟩ =
            (CountedM.step (call.rule settings settings.maxDepth)).run ⟨state, 0⟩ ∧
          ∀ stop, (call.counted settings height).run ⟨state, 0⟩ ≠ .error .exhausted stop) ∧
    ∀ (settings : Settings) (levels : Nat) (loop : Loop),
      loop.call.rule settings levels =
          loop.closing <$> (loop.opening settings levels >>= loop.rest settings levels) ∧
        Shortens (loop.round settings levels) ∧
        ∀ (data : loop.Data) (start : State),
          Repeats (loop.round settings levels) data start
            ((loop.rest settings levels data).run start) := by
  constructor
  · refine ⟨9, fun settings call state height enough => ?_⟩
    have counts := counted_counts settings call 0 (call.height_le_of_nine enough) state
    rw [Nat.sub_zero] at counts
    refine ⟨counts, fun stop => ?_⟩
    rw [counts]
    exact step_ne_exhausted _ _ stop
  · intro settings levels loop
    have shortens := loop.round_shortens settings levels
    exact ⟨loop.rule_call settings levels, shortens,
      shortens.repeats (loop.rest_eq_round settings levels)⟩

/-- With one level the condition gives up a group and reads its operand again, and goes on behind
the conjunction. -/
theorem calls_return_condition :
    (∃ height finish, (Call.condition.counted ⟨"let", 1⟩ height).run
        ⟨⟨.ofList ["(", "a", ")", "<", "1", "&&", "b", "<", "2"], #[]⟩, 0⟩ =
          .ok (.binary .and (.binary .less (.var "a") (.int 1))
            (.binary .less (.var "b") (.int 2))) ⟨finish, 0⟩) ∧
      ∃ later, (Loop.conjunction.round ⟨"let", 1⟩ 1 (.var "a")).run
          ⟨⟨#["(", "a", ")", "<", "1", "&&", "b", "<", "2"], 5, by decide⟩, #[]⟩ =
            .ok (.yield (.binary .and (.var "a") (.binary .less (.var "b") (.int 2)))) later ∧
        later.cursor.remaining < 4 := by
  obtain ⟨⟨perLevel, bounded⟩, loops⟩ := calls_return
  constructor
  · obtain ⟨same, -⟩ := bounded ⟨"let", 1⟩ .condition
      ⟨.ofList ["(", "a", ")", "<", "1", "&&", "b", "<", "2"], #[]⟩ _ (Nat.le_refl _)
    exact ⟨perLevel * 2, _, same.trans rfl⟩
  · obtain ⟨later, run⟩ : ∃ later, (Loop.conjunction.round ⟨"let", 1⟩ 1 (.var "a")).run
        ⟨⟨#["(", "a", ")", "<", "1", "&&", "b", "<", "2"], 5, by decide⟩, #[]⟩ =
          .ok (.yield (.binary .and (.var "a") (.binary .less (.var "b") (.int 2)))) later :=
      ⟨_, rfl⟩
    exact ⟨later, run, (loops ⟨"let", 1⟩ 1 .conjunction).2.1 _ _ _ _ run⟩

end Grammar

end BlockLang
