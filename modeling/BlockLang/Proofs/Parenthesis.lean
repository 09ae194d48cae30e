import BlockLang.Grammar.Condition
import BlockLang.Proofs.Locality

/-!
# What a parenthesis opens

In a condition a parenthesis may open a group or the first operand of a comparison. Both readings
are tried with the same number of levels, and they exclude each other: where the parenthesis can be
read as an operand, the group fails at the token that closes the operand, if not before; and where
the operand nests too deep, so does the group, at the same token.
-/

namespace BlockLang.Grammar

variable {settings : Settings} {levels : Nat} {start middle finish : State} {tree : Tree}
  {error : SyntaxError}

/-! ## Expressions that begin with a parenthesis -/

/-- What follows the first factor of an expression. -/
def afterFactor (settings : Settings) (levels : Nat) (left : Tree) : RuleM Tree := do
  let product ← chainRest (·.family == .multiplicative) (factor settings levels) left
  chainRest (·.family == .additive) (term settings levels) product

theorem afterFactor_local (settings : Settings) (levels : Nat) (left : Tree) :
    Local (afterFactor settings levels left) := by
  have group := arithmeticGroup_local settings levels
  have factors : Local (factor settings levels) := factorOver_local group
  have terms : Local (term settings levels) := termOver_local group
  exact (chainRest_tracks factors factors factors left).bind fun product =>
    chainRest_tracks terms terms terms product

/-- A factor that begins with a parenthesis is a group. -/
theorem run_factor_of_open (opens : start.cursor.peek = some "(") :
    (factor settings levels).run start = (arithmeticGroup settings levels).run start := by
  rw [factor, factorOver, EStateM.run_bind, run_check]
  simp [opens, Cursor.check]

/-- An expression that begins with a parenthesis is a group and what follows it. -/
theorem run_expression_of_open (opens : start.cursor.peek = some "(") :
    (expression settings levels).run start =
      (arithmeticGroup settings levels >>= afterFactor settings levels).run start := by
  have unfolded : expression settings levels =
      factor settings levels >>= afterFactor settings levels := by
    change chain _ (chain _ (factor settings levels)) = _
    rw [chain_eq, chain_eq, bind_assoc]
    rfl
  rw [unfolded, EStateM.run_bind, EStateM.run_bind, run_factor_of_open opens]

/-- A closing parenthesis is no operator. -/
theorem admitted_close (admits : Operator → Bool) : admitted admits (some ")") = none := by
  have absent : Operator.ofText? ")" = none := by decide
  simp [admitted, absent]

/-! ## One operand where a comparison is expected -/

/-- What follows the first expression of a comparison. -/
def comparisonRest (settings : Settings) (levels : Nat) (left : Tree) : RuleM Tree := do
  match ← acceptOperator Operator.isRelational with
  | some operator =>
      let right ← expression settings levels
      return .binary operator left right
  | none => refuse .missingRelation .relation

theorem comparison_eq (settings : Settings) (levels : Nat) :
    comparison settings levels = expression settings levels >>= comparisonRest settings levels :=
  rfl

theorem comparisonRest_tracks {strict : Prop} {settings' : Settings} {levels' : Nat}
    (widens : Widens strict settings levels settings' levels') (left : Tree) :
    Tracks strict (comparisonRest settings levels left)
      (comparisonRest settings' levels' left) := by
  refine (acceptOperator_tracks Operator.isRelational).bind fun found => ?_
  cases found with
  | none => exact refuse_tracks .missingRelation .relation
  | some operator => exact (expression_tracks widens).bind fun right => .pure _

theorem comparison_tracks {strict : Prop} {settings' : Settings} {levels' : Nat}
    (widens : Widens strict settings levels settings' levels') :
    Tracks strict (comparison settings levels) (comparison settings' levels') :=
  (expression_tracks widens).bind fun left => comparisonRest_tracks widens left

/-- A comparison that begins with a parenthesis is a group and what follows it. -/
theorem run_comparison_of_open (opens : start.cursor.peek = some "(") :
    (comparison settings levels).run start =
      (arithmeticGroup settings levels >>= fun operand =>
        afterFactor settings levels operand >>= comparisonRest settings levels).run start := by
  rw [comparison_eq, EStateM.run_bind, run_expression_of_open opens, ← EStateM.run_bind,
    bind_assoc]

theorem afterOperand_local (settings : Settings) (levels : Nat) (operand : Tree) :
    Local (afterFactor settings levels operand >>= comparisonRest settings levels) :=
  (afterFactor_local settings levels operand).bind fun left =>
    comparisonRest_tracks (.refl settings levels) left

/-- A comparison fails behind an operand that is closed. -/
theorem comparison_of_closed (run : (expression settings levels).run start = .ok tree middle)
    (closed : middle.cursor.peek = some ")") :
    (comparison settings levels).run start =
      .error (errorAt middle.cursor .missingRelation (.expected .relation)) middle := by
  rw [comparison, run_bind_of_ok run, EStateM.run_bind, run_acceptOperator]
  have absent := admitted_close Operator.isRelational
  rw [admitted] at absent
  rw [closed, absent]
  dsimp only
  rw [run_refuse, closed]
  rfl

theorem comparison_of_error (run : (expression settings levels).run start = .error error finish) :
    (comparison settings levels).run start = .error error finish := by
  rw [comparison]
  exact run_bind_of_error run

/-! ## The two readings -/

/-- The atoms of conditions. -/
def atom (settings : Settings) (levels : Nat) : RuleM Tree :=
  atomOver settings levels (conditionGroup settings levels)

/-- How an atom that begins with a parenthesis is read, and what comes of it. -/
inductive OpenAtom (settings : Settings) (levels : Nat) (start : State) :
    EStateM.Result SyntaxError State Tree → Prop where
  | group {tree : Tree} {finish : State}
      (grouped : (conditionGroup settings levels).run start = .ok tree finish) :
      OpenAtom settings levels start (.ok tree finish)
  | tooDeep {error : SyntaxError} {finish : State}
      (refused : (conditionGroup settings levels).run start = .error error finish)
      (deep : error.kind = .nestingTooDeep) :
      OpenAtom settings levels start (.error error finish)
  | comparison {first : SyntaxError} {stop finish : State} {tree : Tree}
      (refused : (conditionGroup settings levels).run start = .error first stop)
      (shallow : first.kind ≠ .nestingTooDeep)
      (compared : (comparison settings levels).run (stop.back start.cursor) = .ok tree finish) :
      OpenAtom settings levels start (.ok tree finish)
  | neither {first second : SyntaxError} {stop finish : State}
      (refused : (conditionGroup settings levels).run start = .error first stop)
      (shallow : first.kind ≠ .nestingTooDeep)
      (compared : (comparison settings levels).run (stop.back start.cursor) =
        .error second finish) :
      OpenAtom settings levels start (.error (farther first second) finish)

theorem run_atom_of_open (opens : start.cursor.peek = some "(") :
    (atom settings levels).run start =
      (groupOrComparison (conditionGroup settings levels) (comparison settings levels)).run
        start := by
  rw [atom, atomOver, EStateM.run_bind, run_check]
  simp [opens, Cursor.check]

/-- There is no other way to read an atom that begins with a parenthesis. -/
theorem openAtom_run (settings : Settings) (levels : Nat) (opens : start.cursor.peek = some "(") :
    OpenAtom settings levels start ((atom settings levels).run start) := by
  rw [run_atom_of_open opens, run_groupOrComparison]
  cases refused : (conditionGroup settings levels).run start with
  | ok tree finish => exact .group refused
  | error first stop =>
      dsimp only
      by_cases deep : first.kind = .nestingTooDeep
      · rw [if_pos deep]
        exact .tooDeep refused deep
      · rw [if_neg deep, run_orFarther]
        cases compared : (comparison settings levels).run (stop.back start.cursor) with
        | ok tree finish => exact .comparison refused deep compared
        | error second finish => exact .neither refused deep compared

/-- What comes of a way to read an atom is what the atom gives. -/
theorem OpenAtom.run_eq {result : EStateM.Result SyntaxError State Tree}
    (reading : OpenAtom settings levels start result) (opens : start.cursor.peek = some "(") :
    (atom settings levels).run start = result := by
  rw [run_atom_of_open opens, run_groupOrComparison]
  cases reading with
  | group grouped => rw [grouped]
  | tooDeep refused deep =>
      rw [refused]
      dsimp only
      rw [if_pos deep]
  | comparison refused shallow compared =>
      rw [refused]
      dsimp only
      rw [if_neg shallow, run_orFarther, compared]
  | neither refused shallow compared =>
      rw [refused]
      dsimp only
      rw [if_neg shallow, run_orFarther, compared]

theorem run_atom_of_not_open (other : start.cursor.peek ≠ some "(") :
    (atom settings levels).run start = (comparison settings levels).run start := by
  rw [atom, atomOver, EStateM.run_bind, run_check]
  simp [other, Cursor.check]

theorem condition_of_atom_error (run : (atom settings levels).run start = .error error finish) :
    (condition settings levels).run start = .error error finish := by
  rw [condition, conditionOver, conjunctionOver, chain_eq, chain_eq, bind_assoc]
  exact run_bind_of_error run

/-- The two readings of a parenthesis exclude each other. -/
structure Exclusive (settings : Settings) (levels : Nat) : Prop where
  /-- Where an operand can be read, a group fails before the operand ends. -/
  of_ok : ∀ {start finish : State} {tree : Tree}, start.cursor.peek = some "(" →
    (arithmeticGroup settings levels).run start = .ok tree finish →
    ∃ error stop, (conditionGroup settings levels).run start = .error error stop ∧
      error.kind ≠ .nestingTooDeep ∧ error.position < finish.cursor.position
  /-- Where an operand nests too deep, a group does so at the same token. -/
  of_tooDeep : ∀ {start finish : State} {error : SyntaxError}, start.cursor.peek = some "(" →
    (arithmeticGroup settings levels).run start = .error error finish →
    error.kind = .nestingTooDeep →
    ∃ stop, (conditionGroup settings levels).run start = .error error stop

namespace Exclusive

/-- An expression that is closed is no atom, and the token that closes it is refused. -/
theorem atom_of_closed (exclusive : Exclusive settings levels)
    (run : (expression settings levels).run start = .ok tree middle)
    (closed : middle.cursor.peek = some ")") :
    ∃ stop, (atom settings levels).run start =
      .error (errorAt middle.cursor .missingRelation (.expected .relation)) stop := by
  by_cases opens : start.cursor.peek = some "("
  · have whole := run
    rw [run_expression_of_open opens] at whole
    obtain ⟨operand, between, runGroup, runAfter⟩ := run_bind_ok whole
    have moved := (afterFactor_local settings levels operand).position_le_of_ok runAfter
    obtain ⟨first, stop, refused, shallow, before⟩ := exclusive.of_ok opens runGroup
    have back : (stop.back start.cursor).cursor = start.cursor := rfl
    obtain ⟨middle', run', same⟩ := (expression_local settings levels).ok_of_cursor_eq back run
    have compared := comparison_of_closed run' (same ▸ closed)
    have later : first.position ≤
        (errorAt middle'.cursor .missingRelation (.expected .relation)).position := by
      change first.position ≤ middle'.cursor.position
      rw [same]
      omega
    refine ⟨middle', ?_⟩
    rw [(OpenAtom.neither refused shallow compared).run_eq opens, farther, if_pos later, same]
  · rw [run_atom_of_not_open opens]
    exact ⟨middle, comparison_of_closed run closed⟩

/-- An atom nests too deep where a comparison does. -/
theorem atom_of_tooDeep (exclusive : Exclusive settings levels)
    (run : (comparison settings levels).run start = .error error finish)
    (deep : error.kind = .nestingTooDeep) :
    ∃ stop, (atom settings levels).run start = .error error stop := by
  by_cases opens : start.cursor.peek = some "("
  · have whole := run
    rw [run_comparison_of_open opens] at whole
    rcases run_bind_error whole with runGroup | ⟨operand, between, runGroup, runAfter⟩
    · obtain ⟨stop, refused⟩ := exclusive.of_tooDeep opens runGroup deep
      exact ⟨stop, (OpenAtom.tooDeep refused deep).run_eq opens⟩
    · have moved := (afterOperand_local settings levels operand).position_le_of_error runAfter
      obtain ⟨first, stop, refused, shallow, before⟩ := exclusive.of_ok opens runGroup
      have back : (stop.back start.cursor).cursor = start.cursor := rfl
      obtain ⟨finish', run', -⟩ :=
        (comparison_tracks (.refl settings levels)).error_of_cursor_eq back run fun _ => trivial
      have later : first.position ≤ error.position := by omega
      refine ⟨finish', ?_⟩
      rw [(OpenAtom.neither refused shallow run').run_eq opens, farther, if_pos later]
  · rw [run_atom_of_not_open opens]
    exact ⟨finish, run⟩

end Exclusive

/-- A group that begins with a parenthesis is a condition and what closes it. -/
theorem run_conditionGroup_of_open (settings : Settings) (levels : Nat)
    (opens : start.cursor.peek = some "(") :
    ∃ inside : State, inside.cursor = start.cursor.next ∧
      (conditionGroup settings (levels + 1)).run start =
        (condition settings levels >>= fun tree => do
          require ")" .closeGroup
          return tree).run inside := by
  have taken : start.cursor.check "(" = true := by simp [opens]
  refine ⟨⟨start.cursor.next, start.log⟩, rfl, ?_⟩
  rw [conditionGroup, EStateM.run_bind, run_require, if_pos taken]
  rfl

/-- With one level more the readings exclude each other if the atoms inside do. -/
theorem Exclusive.succ (exclusive : Exclusive settings levels) :
    Exclusive settings (levels + 1) := by
  constructor
  · intro start finish tree opens run
    obtain ⟨inside, sameInside, whole⟩ :=
      run_conditionGroup_of_open settings levels opens
    rw [arithmeticGroup, EStateM.run_bind, run_advance] at run
    obtain ⟨inner, middle, runInner, runClose⟩ := run_bind_ok run
    obtain ⟨middle', runInner', same⟩ := (expression_local settings levels).ok_of_cursor_eq
      (sameInside.trans (advanced_cursor start).symm) runInner
    obtain ⟨_, closing, runRequire, runEnd⟩ := run_bind_ok runClose
    cases runEnd
    have closed := peek_of_require runRequire
    obtain ⟨stop, fails⟩ := exclusive.atom_of_closed runInner' (same ▸ closed.1)
    refine ⟨_, stop, whole.trans (run_bind_of_error (condition_of_atom_error fails)), ?_, ?_⟩
    · change ErrorKind.missingRelation ≠ .nestingTooDeep
      decide
    · change middle'.cursor.position < finish.cursor.position
      rw [same, closed.2, (Cursor.reads_next closed.1).position_eq]
      exact Nat.lt_succ_self _
  · intro start finish error opens run deep
    obtain ⟨inside, sameInside, whole⟩ :=
      run_conditionGroup_of_open settings levels opens
    rw [arithmeticGroup, EStateM.run_bind, run_advance] at run
    rcases run_bind_error run with runInner | ⟨inner, middle, -, runClose⟩
    · obtain ⟨finish', runInner', -⟩ := (expression_local settings levels).error_of_cursor_eq
        (sameInside.trans (advanced_cursor start).symm) runInner fun _ => trivial
      obtain ⟨stop, fails⟩ := exclusive.atom_of_tooDeep (comparison_of_error runInner') deep
      exact ⟨stop, whole.trans (run_bind_of_error (condition_of_atom_error fails))⟩
    · rcases run_bind_error runClose with runRequire | ⟨_, closing, -, runEnd⟩
      · obtain ⟨kind, cause, decision, rfl, -⟩ :=
          (require_decides ")" .closeOperand).of_error runRequire
        split at decision
        · cases decision
        · cases decision
          change refusalKind .unexpectedToken middle.cursor.peek = .nestingTooDeep at deep
          cases front : middle.cursor.peek <;> simp [front, refusalKind] at deep
      · cases runEnd

/-- The two readings of a parenthesis exclude each other with any number of levels. -/
theorem exclusive (settings : Settings) (levels : Nat) : Exclusive settings levels := by
  induction levels with
  | zero =>
      constructor
      · intro start finish tree _ run
        cases run
      · intro start finish error _ run _
        cases run
        exact ⟨start, rfl⟩
  | succ levels ih => exact ih.succ

/-! ## Groups and comparisons -/

/-- Where a comparison can be read, a group fails before the comparison ends. -/
theorem conditionGroup_of_comparison {start' : State} (opens : start.cursor.peek = some "(")
    (same : start.cursor = start'.cursor)
    (run : (comparison settings levels).run start' = .ok tree finish) :
    ∃ error stop, (conditionGroup settings levels).run start = .error error stop ∧
      error.kind ≠ .nestingTooDeep ∧ error.position < finish.cursor.position := by
  obtain ⟨finish', run', sameFinish⟩ :=
    (comparison_tracks (.refl settings levels)).ok_of_cursor_eq same run
  rw [run_comparison_of_open opens] at run'
  obtain ⟨operand, middle, runGroup, runAfter⟩ := run_bind_ok run'
  have further := (afterOperand_local settings levels operand).position_le_of_ok runAfter
  obtain ⟨error, stop, fails, shallow, before⟩ := (exclusive settings levels).of_ok opens runGroup
  rw [sameFinish] at further
  exact ⟨error, stop, fails, shallow, by omega⟩

/-- A group that is given up for a comparison failed before the comparison ends. -/
theorem position_lt_of_comparison {start' stop : State} (opens : start.cursor.peek = some "(")
    (same : start.cursor = start'.cursor)
    (runGroup : (conditionGroup settings levels).run start = .error error stop)
    (run : (comparison settings levels).run start' = .ok tree finish) :
    error.position < finish.cursor.position := by
  obtain ⟨error', stop', fails, -, before⟩ := conditionGroup_of_comparison opens same run
  rw [runGroup] at fails
  cases fails
  exact before

/-- Where a comparison nests too deep, a group does so too or fails no farther on. -/
theorem position_le_of_tooDeep {start' stop : State} {error' : SyntaxError}
    (opens : start.cursor.peek = some "(") (same : start.cursor = start'.cursor)
    (runGroup : (conditionGroup settings levels).run start = .error error stop)
    (run : (comparison settings levels).run start' = .error error' finish)
    (deep : error'.kind = .nestingTooDeep) (shallow : error.kind ≠ .nestingTooDeep) :
    error.position ≤ error'.position := by
  have tracks : Local (comparison settings levels) := comparison_tracks (.refl settings levels)
  have back : (stop.back start.cursor).cursor = start'.cursor := same
  obtain ⟨first, run', -⟩ := tracks.error_of_cursor_eq same run fun _ => trivial
  obtain ⟨second, run'', -⟩ := tracks.error_of_cursor_eq back run fun _ => trivial
  obtain ⟨reached, reported⟩ := (exclusive settings levels).atom_of_tooDeep run' deep
  rw [(OpenAtom.neither runGroup shallow run'').run_eq opens, farther] at reported
  split at reported
  next order => exact order
  next =>
    cases reported
    exact absurd deep shallow

end BlockLang.Grammar
