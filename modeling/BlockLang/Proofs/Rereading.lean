import BlockLang.Proofs.Recording
import BlockLang.Proofs.TokenLevels

/-!
# Parentheses that are read twice

A parenthesis inside a condition is read as a group first, and if that fails as an arithmetic one,
which goes back to nothing. The group that fails is a level deeper than what is around it, so what
it records and what the second reading records stay together within what one level more allows.
-/

namespace BlockLang

namespace Place

/-- True inside the parentheses of a condition. -/
def inCondition (place : Place) : Bool := place.parens.contains false

/-- The number of grouping parentheses that are open inside the innermost condition. -/
def openGroups (place : Place) : Nat := (place.parens.takeWhile id).length

/-- How often a token may be consumed at a place. -/
def readings (place : Place) : Nat :=
  if place.inCondition then 1 + place.openGroups else 1

/-- The place before the token with some index. -/
def reach (origin : Place) (tokens : List Token) (index : Nat) : Place :=
  (tokens.take index).foldl after origin

theorem reach_succ {origin : Place} {tokens : List Token} {index : Nat} {token : Token}
    (front : tokens[index]? = some token) :
    origin.reach tokens (index + 1) = (origin.reach tokens index).after token := by
  rw [reach, List.take_add_one, front, List.foldl_append]
  rfl

end Place

namespace Grammar

variable {settings : Settings} {levels : Nat} {origin : Place} {tokens : List Token}
  {parens : List Bool} {floor position : Nat} {token : Token}

/-! ## Places -/

/-- The number of groups that are open inside the innermost condition; there is none outside of
conditions. -/
def groupDepth (parens : List Bool) : Nat :=
  if false ∈ parens then (parens.takeWhile id).length else 0

theorem groupDepth_of_notMem (outside : false ∉ parens) : groupDepth parens = 0 := if_neg outside

theorem groupDepth_group (inside : false ∈ parens) :
    groupDepth (true :: parens) = groupDepth parens + 1 := by
  simp [groupDepth, inside]

theorem groupDepth_le_group (parens : List Bool) :
    groupDepth parens ≤ groupDepth (true :: parens) := by
  by_cases inside : false ∈ parens
  · rw [groupDepth_group inside]
    exact Nat.le_succ _
  · rw [groupDepth_of_notMem inside]
    exact Nat.zero_le _

/-- These parentheses are open before a token, and a parenthesis would group there. -/
def At (origin : Place) (tokens : List Token) (parens : List Bool) (position : Nat) : Prop :=
  (origin.reach tokens position).parens = parens ∧ (origin.reach tokens position).groups = true

/-- A token that changes no parentheses and opens no condition. -/
def Neutral (token : Token) : Prop :=
  token ∉ ["(", ")", Keyword.ifWord.text, Keyword.whileWord.text]

instance : DecidablePred Neutral := fun _ => inferInstanceAs (Decidable (_ ∉ _))

theorem Ordinary.neutral (ordinary : Ordinary token) : Neutral token := by
  simp_all [Ordinary, Plain, Inner, Neutral]

theorem Neutral.parens_after {place : Place} (neutral : Neutral token) :
    (place.after token).parens = place.parens := by
  simp_all [Neutral, Place.after]

theorem Neutral.groups_after {place : Place} (neutral : Neutral token) :
    (place.after token).groups = true := by
  simp_all [Neutral, Place.after, Place.groups]

theorem At.neutral (holds : At origin tokens parens position)
    (front : tokens[position]? = some token) (neutral : Neutral token) :
    At origin tokens parens (position + 1) := by
  rw [At, Place.reach_succ front]
  exact ⟨neutral.parens_after.trans holds.1, neutral.groups_after⟩

theorem At.opened (holds : At origin tokens parens position)
    (front : tokens[position]? = some "(") : At origin tokens (true :: parens) (position + 1) := by
  rw [At, Place.reach_succ front]
  refine ⟨?_, rfl⟩
  change (origin.reach tokens position).groups :: (origin.reach tokens position).parens = _
  rw [holds.1, holds.2]

theorem At.closed {grouping : Bool} (holds : At origin tokens (grouping :: parens) position)
    (front : tokens[position]? = some ")") : At origin tokens parens (position + 1) := by
  rw [At, Place.reach_succ front]
  refine ⟨?_, rfl⟩
  change (origin.reach tokens position).parens.tail = parens
  rw [holds.1, List.tail_cons]

/-! ## Budgets -/

/-- The number of groups that are open before a token inside the innermost condition. -/
def depthAt (origin : Place) (tokens : List Token) (index : Nat) : Nat :=
  groupDepth (origin.reach tokens index).parens

theorem At.depthAt_eq (holds : At origin tokens parens position) :
    depthAt origin tokens position = groupDepth parens := by
  rw [depthAt, holds.1]

/-- Arithmetic consumes each token once and goes back to none. Tokens that lie less deep than a
floor are none of its own. -/
def arithmeticBudget (origin : Place) (tokens : List Token) (floor : Nat) : Budget
  | .reading, index => min 1 (1 + depthAt origin tokens index - floor)
  | .retreat, _ => 0
  | .beginning, _ => 0

/-- A condition consumes each token once more for each group that is open above a floor, and goes
back once to each parenthesis. -/
def conditionBudget (origin : Place) (tokens : List Token) (floor : Nat) : Budget
  | .reading, index => 1 + depthAt origin tokens index - floor
  | .retreat, index =>
      if tokens[index]? = some "(" ∧ floor ≤ depthAt origin tokens index then 1 else 0
  | .beginning, _ => 0

theorem arithmeticBudget_le (mark : Mark) (index : Nat) :
    arithmeticBudget origin tokens floor mark index ≤
      conditionBudget origin tokens floor mark index := by
  cases mark with
  | reading => exact Nat.min_le_right _ _
  | retreat => exact Nat.zero_le _
  | beginning => exact Nat.le_refl _

/-- Both readings of a parenthesis keep to the budget of a condition, because the first one is the
group that this parenthesis opens. -/
theorem bothReadings_le (mark : Mark) (index : Nat) (opens : tokens[position]? = some "(")
    (depth : depthAt origin tokens position = floor) :
    conditionBudget origin tokens (floor + 1) mark index +
        arithmeticBudget origin tokens floor mark index +
        (if mark = .retreat ∧ index = position then 1 else 0) ≤
      conditionBudget origin tokens floor mark index := by
  cases mark with
  | reading =>
      simp only [conditionBudget, arithmeticBudget, reduceCtorEq, false_and, if_false]
      omega
  | retreat =>
      simp only [conditionBudget, arithmeticBudget, true_and]
      by_cases here : index = position
      · subst here
        simp [opens, depth]
      · simp only [here, if_false]
        split
        next reached =>
          exact Nat.le_of_eq (if_pos ⟨reached.1, Nat.le_of_succ_le reached.2⟩).symm
        next => exact Nat.zero_le _
  | beginning => exact Nat.le_refl _

/-! ## Arithmetic -/

theorem At.operator (operator : Operator) (holds : At origin tokens parens position)
    (front : tokens[position]? = some operator.text) : At origin tokens parens (position + 1) :=
  holds.neutral front (ordinary_text operator).neutral

theorem neutral_of_ofOperand {keyword : Token} {tree : Tree}
    (read : Tree.ofOperand token keyword = .ok tree) : Neutral token := by
  rcases Tree.ofOperand_eq_ok_iff.mp read with ⟨digits, -, -⟩ | ⟨digits, -, -⟩ | ⟨named, -⟩
  · exact (Ordinary.of_shape digits (by decide) fun word =>
      Token.ne_of_shape digits (by cases word <;> decide)).neutral
  · exact (Ordinary.of_shape digits (by decide) fun word =>
      Token.ne_of_shape digits (by cases word <;> decide)).neutral
  · exact (Ordinary.of_isName named).neutral

/-- Between given parentheses a rule keeps to a budget, and behind it they are open again. -/
def Stays (origin : Place) (tokens : List Token) (parens : List Bool) (budget : Budget)
    (rule : RuleM Tree) : Prop :=
  Spends tokens budget (At origin tokens parens) rule fun _ => At origin tokens parens

/-- A rule stays where it begins with a parenthesis that opens. -/
def StaysOpened (origin : Place) (tokens : List Token) (parens : List Bool) (budget : Budget)
    (rule : RuleM Tree) : Prop :=
  Spends tokens budget
    (fun position => At origin tokens parens position ∧ tokens[position]? = some "(") rule
    fun _ => At origin tokens parens

section Arithmetic

variable {budget : Budget} {group : RuleM Tree}

/-- A factor keeps to a budget that allows one reading when the groups do. -/
theorem factorOver_stays
    (affords : ∀ position, At origin tokens parens position → 0 < budget .reading position)
    (stays : StaysOpened origin tokens parens budget group) :
    Stays origin tokens parens budget (factorOver settings group) := by
  refine (check_spends "(").bind fun opens => .ite (fun truth => ?_) fun _ => ?_
  · exact stays.weaken fun position holds => ⟨holds.1, holds.2.mp truth⟩
  · refine (operand_spends affords ?_).weaken fun position holds => holds.1
    intro position token tree holds front read
    exact holds.neutral front (neutral_of_ofOperand read)

theorem termOver_stays (factor : Stays origin tokens parens budget (factorOver settings group)) :
    Stays origin tokens parens budget (termOver settings group) :=
  chain_spends factor fun _ => At.operator

theorem expressionOver_stays
    (factor : Stays origin tokens parens budget (factorOver settings group)) :
    Stays origin tokens parens budget (expressionOver settings group) :=
  chain_spends (termOver_stays factor) fun _ => At.operator

end Arithmetic

/-- No less deep than a floor arithmetic may consume a token. -/
theorem affords_reading (deep : floor ≤ groupDepth parens) (position : Nat)
    (holds : At origin tokens parens position) :
    0 < arithmeticBudget origin tokens floor .reading position := by
  simp only [arithmeticBudget, holds.depthAt_eq]
  omega

/-- An arithmetic group consumes each of its tokens once. -/
theorem arithmeticGroup_stays (deep : floor ≤ groupDepth parens) :
    StaysOpened origin tokens parens (arithmeticBudget origin tokens floor)
      (arithmeticGroup settings levels) := by
  induction levels generalizing parens with
  | zero => exact fail_spends
  | succ levels ih =>
      have deeper := Nat.le_trans deep (groupDepth_le_group parens)
      have inside : Stays origin tokens (true :: parens) (arithmeticBudget origin tokens floor)
          (expressionOver settings (arithmeticGroup settings levels)) :=
        expressionOver_stays (factorOver_stays (affords_reading deeper) (ih deeper))
      have opening : Spends tokens (arithmeticBudget origin tokens floor)
          (fun position => At origin tokens parens position ∧ tokens[position]? = some "(") advance
          fun _ => At origin tokens (true :: parens) :=
        advance_spends (fun position holds => affords_reading deep position holds.1)
          (fun _ holds => holds.2) fun _ holds => holds.1.opened holds.2
      exact opening.bind fun _ => inside.bind fun tree =>
        (require_spends fun _ => At.closed).bind fun _ => .done

theorem factor_stays (deep : floor ≤ groupDepth parens) :
    Stays origin tokens parens (arithmeticBudget origin tokens floor) (factor settings levels) :=
  factorOver_stays (affords_reading deep) (arithmeticGroup_stays deep)

theorem expression_stays (deep : floor ≤ groupDepth parens) :
    Stays origin tokens parens (arithmeticBudget origin tokens floor)
      (expression settings levels) :=
  expressionOver_stays (factor_stays deep)

theorem comparison_stays (deep : floor ≤ groupDepth parens) :
    Stays origin tokens parens (arithmeticBudget origin tokens floor)
      (comparison settings levels) := by
  refine (expression_stays deep).bind fun left =>
    (acceptOperator_spends fun _ => At.operator).bind fun found => ?_
  cases found with
  | none => exact refuse_spends
  | some operator => exact (expression_stays deep).bind fun right => .done

/-! ## Conditions -/

/-- What two readings from one place record together. -/
theorem Within.again {once twice budget : Budget} {start stop finish : State}
    {last last' last'' : Nat} (first : Within once start last stop)
    (second : Within twice (stop.back start.cursor) last' finish)
    (order : last ≤ last'') (order' : last' ≤ last'') (inside : start.cursor.position < last'')
    (sum : ∀ mark index, once mark index + twice mark index +
      (if mark = .retreat ∧ index = start.cursor.position then 1 else 0) ≤ budget mark index) :
    Within budget start last'' finish := by
  intro mark index
  have read := first mark index
  have again := second mark index
  have total := sum mark index
  have back : tally (stop.back start.cursor).log mark index = tally stop.log mark index +
      if mark = .retreat ∧ index = start.cursor.position then 1 else 0 := by
    rw [State.back, tally_push, tally_push]
    cases mark <;> simp [Event.about?, eq_comm]
  have position : (stop.back start.cursor).cursor.position = start.cursor.position := rfl
  rw [back, position] at again
  by_cases within : start.cursor.position ≤ index ∧ index < last''
  · have spent := share_le once start.cursor.position last mark index
    have spent' := share_le twice start.cursor.position last' mark index
    rw [share, if_pos within]
    omega
  · have elsewhere : ¬ (mark = .retreat ∧ index = start.cursor.position) := by
      rintro ⟨-, here⟩
      exact within ⟨Nat.le_of_eq here.symm, here ▸ inside⟩
    rw [if_neg elsewhere] at again
    rw [share, if_neg (by omega)] at read again
    rw [share, if_neg within]
    omega

theorem farther_position (first second : SyntaxError) :
    (farther first second).position = max first.position second.position := by
  unfold farther
  split <;> omega

/-- Where a parenthesis can be read twice, a group that keeps to a budget a level deeper leaves
enough for the second reading. -/
theorem openAtom_spends {start : State} (same : start.cursor.tokens.toList = tokens)
    (holds : At origin tokens parens start.cursor.position)
    (opens : start.cursor.peek = some "(")
    (group : Stays origin tokens parens
      (conditionBudget origin tokens (groupDepth parens + 1)) (conditionGroup settings levels)) :
    SpendsAt tokens (conditionBudget origin tokens (groupDepth parens)) (atom settings levels)
      (fun _ => At origin tokens parens) start := by
  have grouped := group start same holds
  have compared : Stays origin tokens parens
      (arithmeticBudget origin tokens (groupDepth parens)) (comparison settings levels) :=
    comparison_stays (Nat.le_refl _)
  have both := fun mark index => bothReadings_le mark index
    ((peek_eq_getElem? same).symm.trans opens) holds.depthAt_eq
  have alone : ∀ mark index, start.cursor.position ≤ index →
      conditionBudget origin tokens (groupDepth parens + 1) mark index ≤
        conditionBudget origin tokens (groupDepth parens) mark index :=
    fun mark index _ => by have := both mark index; omega
  have reading := openAtom_run settings levels opens
  constructor
  · intro tree finish run
    rw [run] at reading
    cases reading with
    | group run' =>
        obtain ⟨kept, reached, order, within⟩ := grouped.ok run'
        exact ⟨kept, reached, order, within.mono (Nat.le_refl _) alone⟩
    | @comparison first stop _ _ refused shallow run' =>
        have back : start.cursor = (stop.back start.cursor).cursor := rfl
        have before := position_lt_of_comparison opens back refused run'
        obtain ⟨order, within⟩ := grouped.error refused
        obtain ⟨kept, reached, order', within'⟩ :=
          (compared (stop.back start.cursor) same holds).ok run'
        exact ⟨kept, reached, order', within.again within' before (Nat.le_refl _)
          (Nat.lt_of_le_of_lt order before) both⟩
  · intro error finish run
    rw [run] at reading
    cases reading with
    | tooDeep refused deep =>
        obtain ⟨order, within⟩ := grouped.error refused
        exact ⟨order, within.mono (Nat.le_refl _) alone⟩
    | @neither first second stop _ refused shallow run' =>
        obtain ⟨order, within⟩ := grouped.error refused
        obtain ⟨order', within'⟩ := (compared (stop.back start.cursor) same holds).error run'
        rw [farther_position]
        exact ⟨by omega, within.again within' (by omega) (by omega) (by omega) both⟩

/-- An atom keeps to a budget when the group that it may be keeps to one that is a level deeper. -/
theorem atom_stays
    (group : Stays origin tokens parens
      (conditionBudget origin tokens (groupDepth parens + 1)) (conditionGroup settings levels)) :
    Stays origin tokens parens (conditionBudget origin tokens (groupDepth parens))
      (atom settings levels) := by
  intro start same holds
  by_cases opens : start.cursor.peek = some "("
  · exact openAtom_spends same holds opens group
  · have alone : Stays origin tokens parens
        (arithmeticBudget origin tokens (groupDepth parens)) (comparison settings levels) :=
      comparison_stays (Nat.le_refl _)
    exact ((alone start same holds).mono (fun _ _ _ reached => reached)
      fun mark index _ => arithmeticBudget_le mark index).of_run_eq (run_atom_of_not_open opens)

theorem conditionOver_stays {budget : Budget} {group : RuleM Tree}
    (atom : Stays origin tokens parens budget (atomOver settings levels group)) :
    Stays origin tokens parens budget (conditionOver settings levels group) :=
  chain_spends (chain_spends atom fun _ => At.operator) fun _ => At.operator

theorem conditionGroup_stays (inside : false ∈ parens) :
    Stays origin tokens parens (conditionBudget origin tokens (groupDepth parens + 1))
      (conditionGroup settings levels) := by
  induction levels generalizing parens with
  | zero => exact fail_spends
  | succ levels ih =>
      have deeper : false ∈ true :: parens := List.mem_cons_of_mem _ inside
      have condition := conditionOver_stays (atom_stays (ih deeper))
      rw [groupDepth_group inside] at condition
      exact (require_spends fun _ => At.opened).bind fun _ => condition.bind fun tree =>
        (require_spends fun _ => At.closed).bind fun _ => .done

/-- A condition consumes each token once more for each group that is open in it. -/
theorem condition_stays (inside : false ∈ parens) :
    Stays origin tokens parens (conditionBudget origin tokens (groupDepth parens))
      (condition settings levels) :=
  conditionOver_stays (atom_stays (conditionGroup_stays inside))

end Grammar

end BlockLang
