import BlockLang.Grammar.Arithmetic

/-!
# Conditions

A condition joins comparisons and groups of conditions, where `&&` binds tighter than `||`. A
parenthesis may open a group or the first operand of a comparison, so the group is tried first and
the comparison from the same place if it fails. When both fail, the error that lies farther on is
reported.
-/

namespace BlockLang.Grammar

/-- Two expressions with a relational operator between them. -/
def comparison (settings : Settings) (levels : Nat) : RuleM Tree := do
  let left ← expression settings levels
  match ← acceptOperator Operator.isRelational with
  | some operator =>
      let right ← expression settings levels
      return .binary operator left right
  | none => refuse .missingRelation .relation

/-- The state with the cursor back where it stood, to read a parenthesis again. Both the way back
and the second reading are recorded. -/
def State.back (state : State) (start : Cursor) : State :=
  ⟨start, (state.log.push (.rewound state.cursor.position start.position)).push
    (.retried start.position)⟩

/-- Of two errors the one that lies farther on, the second on a tie. -/
def farther (first second : SyntaxError) : SyntaxError :=
  if first.position ≤ second.position then second else first

/-- Fails with the farther of the given error and the error of a rule. -/
def orFarther {α : Type} (first : SyntaxError) (rule : RuleM α) : RuleM α := fun state =>
  match rule.run state with
  | .ok value state => .ok value state
  | .error second state => .error (farther first second) state

/-- A group, or else a comparison from the same place. A group that nests too deep is final, because
the comparison would open the same parentheses. -/
def groupOrComparison (group comparison : RuleM Tree) : RuleM Tree := fun start =>
  match group.run start with
  | .ok tree state => .ok tree state
  | .error first state =>
      if first.kind = .nestingTooDeep then .error first state
      else (orFarther first comparison).run (state.back start.cursor)

/-- A comparison, or a group if a parenthesis comes first and can be read as one. -/
def atomOver (settings : Settings) (levels : Nat) (group : RuleM Tree) : RuleM Tree := do
  if ← check "(" then groupOrComparison group (comparison settings levels)
  else comparison settings levels

/-- Atoms joined by `&&`. -/
def conjunctionOver (settings : Settings) (levels : Nat) (group : RuleM Tree) : RuleM Tree :=
  chain (· == .and) (atomOver settings levels group)

/-- Conjunctions joined by `||`. -/
def conditionOver (settings : Settings) (levels : Nat) (group : RuleM Tree) : RuleM Tree :=
  chain (· == .or) (conjunctionOver settings levels group)

theorem run_orFarther {α : Type} (first : SyntaxError) (rule : RuleM α) (state : State) :
    (orFarther first rule).run state =
      match rule.run state with
      | .ok value state => .ok value state
      | .error second state => .error (farther first second) state := rfl

theorem run_groupOrComparison (group comparison : RuleM Tree) (start : State) :
    (groupOrComparison group comparison).run start =
      match group.run start with
      | .ok tree state => .ok tree state
      | .error first state =>
          if first.kind = .nestingTooDeep then .error first state
          else (orFarther first comparison).run (state.back start.cursor) := rfl

/-- A condition in parentheses, with this many levels left for it and what is in it. -/
def conditionGroup (settings : Settings) : Nat → RuleM Tree
  | 0 => tooDeep settings
  | levels + 1 => do
      require "(" .openGroup
      let tree ← conditionOver settings levels (conditionGroup settings levels)
      require ")" .closeGroup
      return tree

def condition (settings : Settings) (levels : Nat) : RuleM Tree :=
  conditionOver settings levels (conditionGroup settings levels)

end BlockLang.Grammar
