import BlockLang.Proofs.Rereading

/-!
# Backtracking is bounded

Only a parenthesis inside a condition is ever read twice, so the cursor goes back at most once to
any token, and a token is consumed at most once more for each group that is open around it.
Statements are never read again: each begins behind the token at which the one around it begins.
-/

namespace BlockLang

/-- The place at which a rule begins that is called by itself. A condition begins inside of its
parentheses. -/
def Rule.origin : Rule → Place
  | .condition => { parens := [false] }
  | _ => {}

namespace Grammar

variable {α : Type} {settings : Settings} {levels first start position : Nat} {word : Keyword}
  {origin : Place} {tokens : List Token} {parens : List Bool} {floor : Nat} {token : Token}

/-! ## Outside of conditions -/

theorem readings_eq (place : Place) : place.readings = 1 + groupDepth place.parens := by
  by_cases inside : false ∈ place.parens <;>
    simp [Place.readings, Place.inCondition, Place.openGroups, groupDepth, inside]

/-- Before a token no condition is open. -/
def Unconditioned (origin : Place) (tokens : List Token) (position : Nat) : Prop :=
  false ∉ (origin.reach tokens position).parens

/-- Before a token no condition is open, and none would be opened there. -/
def Outside (origin : Place) (tokens : List Token) (position : Nat) : Prop :=
  Unconditioned origin tokens position ∧ (origin.reach tokens position).groups = true

theorem At.outside (holds : At origin tokens parens position) (outside : false ∉ parens) :
    Outside origin tokens position :=
  ⟨fun member => outside (holds.1 ▸ member), holds.2⟩

theorem Outside.neutral (holds : Unconditioned origin tokens position)
    (front : tokens[position]? = some token) (neutral : Neutral token) :
    Outside origin tokens (position + 1) := by
  rw [Outside, Unconditioned, Place.reach_succ front, neutral.parens_after]
  exact ⟨holds, neutral.groups_after⟩

/-- Outside of conditions any token leads to a place outside of them. -/
theorem Outside.unconditioned (holds : Outside origin tokens position)
    (front : tokens[position]? = some token) : Unconditioned origin tokens (position + 1) := by
  obtain ⟨unconditioned, groups⟩ := holds
  rw [Unconditioned, Place.reach_succ front, Place.after]
  dsimp only
  split
  · rw [groups]
    exact List.not_mem_cons_of_ne_of_not_mem (by decide) unconditioned
  · split
    · exact fun member => unconditioned (List.mem_of_mem_tail member)
    · exact unconditioned

/-- Behind a fixed word a parenthesis opens a condition. -/
theorem Outside.condition {word : Keyword} (holds : Outside origin tokens position)
    (conditional : word = .ifWord ∨ word = .whileWord)
    (front : tokens[position]? = some word.text) (opens : tokens[position + 1]? = some "(") :
    ∃ parens, false ∉ parens ∧ At origin tokens (false :: parens) (position + 2) := by
  refine ⟨(origin.reach tokens position).parens, holds.1, ?_⟩
  rw [At, Place.reach_succ opens, Place.reach_succ front]
  rcases conditional with rfl | rfl <;> exact ⟨rfl, rfl⟩

/-! ## Statements -/

/-- Statements also begin once at each token from some token on. -/
def statementBudget (origin : Place) (tokens : List Token) (first : Nat) : Budget
  | .reading, index => 1 + depthAt origin tokens index
  | .retreat, index => if tokens[index]? = some "(" then 1 else 0
  | .beginning, index => if first ≤ index then 1 else 0

theorem conditionBudget_le (first : Nat) (mark : Mark) (index : Nat) :
    conditionBudget origin tokens floor mark index ≤
      statementBudget origin tokens first mark index := by
  cases mark with
  | reading => exact Nat.sub_le _ _
  | retreat =>
      simp only [conditionBudget, statementBudget]
      split
      next opens => exact Nat.le_of_eq (if_pos opens.1).symm
      next => exact Nat.zero_le _
  | beginning => exact Nat.zero_le _

theorem statementBudget_le {first first' : Nat} (mark : Mark) (index : Nat)
    (order : first ≤ index → first' ≤ index) :
    statementBudget origin tokens first mark index ≤
      statementBudget origin tokens first' mark index := by
  cases mark with
  | reading => exact Nat.le_refl _
  | retreat => exact Nat.le_refl _
  | beginning =>
      simp only [statementBudget]
      split
      next reached => exact Nat.le_of_eq (if_pos (order reached)).symm
      next => exact Nat.zero_le _

theorem affords_statement (position : Nat) :
    0 < statementBudget origin tokens first .reading position := by
  simp only [statementBudget]
  omega

/-- What begins at a token, outside of conditions. -/
abbrev From (origin : Place) (tokens : List Token) (start position : Nat) : Prop :=
  position = start ∧ Outside origin tokens position

/-- What ends behind a token, outside of conditions. -/
abbrev Behind (origin : Place) (tokens : List Token) (start position : Nat) : Prop :=
  Outside origin tokens position ∧ start < position

/-- Outside of conditions a rule keeps to the budget of statements. -/
def Keeps (origin : Place) (tokens : List Token) (rule : RuleM α) : Prop :=
  Spends tokens (statementBudget origin tokens 0) (Outside origin tokens) rule
    fun _ => Outside origin tokens

/-- A part of a statement that begins at a token begins no other statement there. -/
abbrev PartOf (origin : Place) (tokens : List Token) (start : Nat) (before : Nat → Prop)
    (rule : RuleM α) (after : Nat → Prop) : Prop :=
  Spends tokens (statementBudget origin tokens (start + 1)) before rule fun _ => after

/-- Outside of conditions a rule consumes a token and begins no statement there. -/
def Proceeds (origin : Place) (tokens : List Token) (rule : RuleM α) : Prop :=
  ∀ start, PartOf origin tokens start (From origin tokens start) rule (Behind origin tokens start)

variable {rule : RuleM α}

/-- Behind a token no statement begins at that token. -/
theorem Keeps.behind (keeps : Keeps origin tokens rule) (start : Nat) :
    PartOf origin tokens start (Behind origin tokens start) rule (Behind origin tokens start) :=
  keeps.past start fun mark index behind => statementBudget_le mark index fun _ => behind

theorem Proceeds.keeps (proceeds : Proceeds origin tokens rule) : Keeps origin tokens rule :=
  .of_each (fun start => (proceeds start).reach fun _ _ reached => reached.1)
    fun _ mark index => statementBudget_le mark index fun _ => Nat.zero_le _

theorem From.behind (holds : From origin tokens start position)
    (front : tokens[position]? = some token) (neutral : Neutral token) :
    Behind origin tokens start (position + 1) :=
  ⟨.neutral holds.2.1 front neutral, Nat.lt_succ_of_le (Nat.le_of_eq holds.1.symm)⟩

theorem Behind.further (holds : Behind origin tokens start position)
    (front : tokens[position]? = some token) (neutral : Neutral token) :
    Behind origin tokens start (position + 1) :=
  ⟨.neutral holds.1.1 front neutral, Nat.lt_succ_of_lt holds.2⟩

/-! ## Statements without blocks -/

/-- What keeps to the budget of arithmetic wherever it begins keeps to that of statements. -/
theorem keeps_of_stays {rule : RuleM Tree}
    (stays : ∀ parens, Stays origin tokens parens (arithmeticBudget origin tokens 0) rule) :
    Keeps origin tokens rule := by
  intro start same holds
  have inside := stays (origin.reach tokens start.cursor.position).parens start same ⟨rfl, holds.2⟩
  exact inside.mono (fun _ _ _ reached => reached.outside holds.1) fun mark index _ =>
    Nat.le_trans (arithmeticBudget_le mark index) (conditionBudget_le 0 mark index)

theorem expression_keeps : Keeps origin tokens (expression settings levels) :=
  keeps_of_stays fun _ => expression_stays (Nat.zero_le _)

theorem assignment_proceeds : Proceeds origin tokens (assignment settings levels) := by
  intro start
  have target : PartOf origin tokens start (From origin tokens start)
      (name settings .invalidTarget .target) (Behind origin tokens start) :=
    name_spends (fun position _ => affords_statement position) fun _ _ holds front named =>
      holds.behind front (Ordinary.of_isName named).neutral
  have assign : PartOf origin tokens start (Behind origin tokens start)
      (require Token.assign .assignment) (Behind origin tokens start) :=
    require_spends fun _ holds front => holds.further front ordinary_assign.neutral
  exact target.bind fun _ => assign.bind fun _ => (expression_keeps.behind start).bind fun _ =>
    .done

/-- Names outside of conditions are consumed once. -/
theorem namesFrom_spends (bound : Nat) :
    Spends tokens (statementBudget origin tokens 0) (Unconditioned origin tokens)
      (namesFrom settings bound) fun _ => Outside origin tokens := by
  induction bound with
  | zero => exact refuse_spends
  | succ bound ih =>
      have named : Spends tokens (statementBudget origin tokens 0)
          (Unconditioned origin tokens) (name settings .invalidIdentifier .identifier)
          fun _ => Outside origin tokens :=
        name_spends (fun position _ => affords_statement position)
          fun _ _ holds front shape => .neutral holds front (Ordinary.of_isName shape).neutral
      refine named.bind fun head =>
        (accept_spends fun _ => Outside.unconditioned).bind fun more => ?_
      cases more with
      | true => exact ih.bind fun others => .done
      | false => exact .done

theorem declaration_proceeds : Proceeds origin tokens (declaration settings) := by
  intro start
  -- the keyword may be any token, a parenthesis too
  have keyword : PartOf origin tokens start (From origin tokens start)
      (require settings.keyword (.word settings.keyword))
      fun position => Unconditioned origin tokens position ∧ start < position :=
    require_spends fun position holds front =>
      ⟨holds.2.unconditioned front, Nat.lt_succ_of_le (Nat.le_of_eq holds.1.symm)⟩
  have names : ∀ bound, PartOf origin tokens start _ (namesFrom settings bound)
      (Behind origin tokens start) :=
    fun bound => (namesFrom_spends bound).past start fun mark index behind =>
      statementBudget_le mark index fun _ => behind
  exact keyword.bind fun _ => remaining_spends.bind fun bound =>
    (names bound).bind fun _ => .done

/-! ## Heads -/

/-- Before a token a condition is open, and no other around it. -/
def Heading (origin : Place) (tokens : List Token) (position : Nat) : Prop :=
  ∃ parens, false ∉ parens ∧ At origin tokens (false :: parens) position

theorem condition_heading :
    Spends tokens (statementBudget origin tokens 0) (Heading origin tokens)
      (condition settings levels) fun _ => Heading origin tokens := by
  rintro start same ⟨parens, outside, holds⟩
  have inside : Stays origin tokens (false :: parens)
      (conditionBudget origin tokens (groupDepth (false :: parens))) (condition settings levels) :=
    condition_stays List.mem_cons_self
  exact (inside start same holds).mono (fun _ _ _ reached => ⟨parens, outside, reached⟩)
    fun mark index _ => conditionBudget_le 0 mark index

theorem headCondition_proceeds (conditional : word = .ifWord ∨ word = .whileWord) :
    Proceeds origin tokens (headCondition settings levels word) := by
  intro start
  have fixed : PartOf origin tokens start (From origin tokens start)
      (require word.text (.word word.text)) fun position => position = start + 1 ∧
        Outside origin tokens start ∧ tokens[start]? = some word.text := by
    refine require_spends ?_
    rintro position ⟨rfl, holds⟩ front
    exact ⟨rfl, holds, front⟩
  have opening : PartOf origin tokens start (fun position => position = start + 1 ∧
        Outside origin tokens start ∧ tokens[start]? = some word.text)
      (require "(" (.openCondition word))
      fun position => Heading origin tokens position ∧ start < position := by
    refine require_spends ?_
    rintro position ⟨rfl, holds, front⟩ opens
    exact ⟨holds.condition conditional front opens, by omega⟩
  have test : PartOf origin tokens start
      (fun position => Heading origin tokens position ∧ start < position)
      (condition settings levels)
      fun position => Heading origin tokens position ∧ start < position :=
    condition_heading.past start fun mark index behind =>
      statementBudget_le mark index fun _ => behind
  have closing : PartOf origin tokens start
      (fun position => Heading origin tokens position ∧ start < position)
      (require ")" (.closeCondition word)) (Behind origin tokens start) := by
    refine require_spends ?_
    rintro position ⟨⟨parens, outside, holds⟩, behind⟩ closes
    exact ⟨(holds.closed closes).outside outside, Nat.lt_succ_of_lt behind⟩
  exact fixed.bind fun _ => opening.bind fun _ => test.bind fun _ => closing.bind fun _ =>
    .done

section Bodies

variable {body : RuleM (List Tree)} {statement : RuleM Tree}

theorem conditionalOver_proceeds (keeps : Keeps origin tokens body) :
    Proceeds origin tokens (conditionalOver settings levels body) := by
  intro start
  have alternative : Spends tokens (statementBudget origin tokens (start + 1))
      (Behind origin tokens start) (accept Keyword.elseWord.text) fun accepted =>
        if accepted then Behind origin tokens start else Behind origin tokens start :=
    accept_spends fun _ holds front => holds.further front ordinary_else.neutral
  refine (headCondition_proceeds (.inl rfl) start).bind fun test =>
    (keeps.behind start).bind fun _ => alternative.bind fun accepted => ?_
  cases accepted with
  | true => exact (keeps.behind start).bind fun _ => .done
  | false => exact .done

theorem loopOver_proceeds (keeps : Keeps origin tokens body) :
    Proceeds origin tokens (loopOver settings levels body) := fun start =>
  (headCondition_proceeds (.inr rfl) start).bind fun _ => (keeps.behind start).bind fun _ =>
    .done

/-! ## Lists of statements -/

theorem separator_keeps :
    Spends tokens (statementBudget origin tokens 0)
      (fun position => Outside origin tokens position ∧ tokens[position]? = some ";") advance
      fun _ => Outside origin tokens :=
  advance_spends (fun position _ => affords_statement position) (fun _ holds => holds.2)
    fun _ holds => .neutral holds.1.1 holds.2 (by decide)

/-- Statements that follow each other begin at different tokens. -/
theorem statementsFrom_keeps (keeps : Keeps origin tokens statement) (bound : Nat) :
    Keeps origin tokens (statementsFrom statement bound) := by
  induction bound with
  | zero => exact fail_spends
  | succ bound ih =>
      refine peek_spends.bind fun front => ?_
      cases front with
      | none => exact fail_spends
      | some token =>
          refine .ite (fun _ => .pure fun _ holds => holds.1) fun _ => ?_
          refine (keeps.weaken fun _ holds => holds.1).bind fun head =>
            peek_spends.bind fun separator => ?_
          cases separator with
          | none => exact fail_spends
          | some separator =>
              refine .ite (fun separates => ?_) fun _ => refuse_spends
              subst separates
              exact separator_keeps.bind fun _ => ih.bind fun others => .done

theorem statementsOver_keeps (keeps : Keeps origin tokens statement) :
    Keeps origin tokens (statementsOver statement) :=
  remaining_spends.bind (statementsFrom_keeps keeps)

end Bodies

/-- A statement that is recorded where it begins begins there once. -/
theorem Within.dispatched {start finish : State} {last : Nat}
    (within : Within (statementBudget origin tokens (start.cursor.position + 1))
      ⟨start.cursor, start.log.push (.dispatched start.cursor.position token)⟩ last finish)
    (inside : start.cursor.position < last) :
    Within (statementBudget origin tokens 0) start last finish := by
  intro mark index
  have spent := within mark index
  have begun : tally (start.log.push (.dispatched start.cursor.position token)) mark index =
      tally start.log mark index +
        if mark = .beginning ∧ index = start.cursor.position then 1 else 0 := by
    rw [tally_push]
    cases mark <;> simp [Event.about?, eq_comm]
  simp only [begun] at spent
  by_cases here : mark = .beginning ∧ index = start.cursor.position
  · obtain ⟨rfl, rfl⟩ := here
    rw [if_pos ⟨rfl, rfl⟩, share, if_pos ⟨Nat.le_refl _, inside⟩] at spent
    rw [share, if_pos ⟨Nat.le_refl _, inside⟩]
    simp only [statementBudget, Nat.not_succ_le_self, Nat.zero_le, if_true, if_false] at spent ⊢
    exact spent
  · rw [if_neg here] at spent
    have more : share (statementBudget origin tokens (start.cursor.position + 1))
        start.cursor.position last mark index ≤
          share (statementBudget origin tokens 0) start.cursor.position last mark index := by
      unfold share
      split
      · exact statementBudget_le mark index fun _ => Nat.zero_le _
      · exact Nat.le_refl _
    exact Nat.le_trans spent (Nat.add_le_add_left more _)

theorem Proceeds.dispatch (proceeds : Proceeds origin tokens rule) (token : Token) :
    Keeps origin tokens (dispatch token >>= fun _ => rule) := by
  intro start same holds
  have spent := proceeds start.cursor.position
    ⟨start.cursor, start.log.push (.dispatched start.cursor.position token)⟩ same ⟨rfl, holds⟩
  constructor
  · intro value finish run
    obtain ⟨kept, ⟨reached, behind⟩, order, within⟩ := spent.ok run
    exact ⟨kept, reached, order, within.dispatched behind⟩
  · intro error finish run
    obtain ⟨order, within⟩ := spent.error run
    exact ⟨order, within.dispatched (Nat.lt_succ_of_le order)⟩

theorem block_proceeds_succ (keeps : Keeps origin tokens (statement settings levels)) :
    Proceeds origin tokens (block settings (levels + 1)) := by
  intro start
  rw [block_succ]
  have opening : PartOf origin tokens start (From origin tokens start)
      (brace "\x7b" .openBlock) (Behind origin tokens start) :=
    brace_spends fun _ holds front => holds.behind front (by decide)
  have closing : PartOf origin tokens start (Behind origin tokens start)
      (brace "\x7d" .closeBlock) (Behind origin tokens start) :=
    brace_spends fun _ holds front => holds.further front (by decide)
  exact opening.bind fun _ => ((statementsOver_keeps keeps).behind start).bind fun statements =>
    closing.bind fun _ => .done

theorem statementOf_proceeds (proceeds : Proceeds origin tokens (block settings levels))
    (first : Token) : Proceeds origin tokens (statementOf settings levels first) := fun start =>
  .ite (fun _ => conditionalOver_proceeds proceeds.keeps start) fun _ =>
    .ite (fun _ => loopOver_proceeds proceeds.keeps start) fun _ =>
      .ite (fun _ => (proceeds start).bind fun _ => .done) fun _ =>
        .ite (fun _ => declaration_proceeds start) fun _ => assignment_proceeds start

theorem statement_keeps_succ (proceeds : Proceeds origin tokens (block settings levels)) :
    Keeps origin tokens (statement settings (levels + 1)) := by
  rw [statement_succ]
  refine peek_spends.bind fun front => ?_
  cases front with
  | none => exact refuse_spends
  | some first =>
      exact ((statementOf_proceeds proceeds first).dispatch first).weaken fun _ holds => holds.1

/-- Statements and blocks begin each statement once, a block none at the brace that opens it. -/
theorem statement_block_keep (settings : Settings) (levels : Nat) :
    Keeps origin tokens (statement settings levels) ∧
      Proceeds origin tokens (block settings levels) := by
  induction levels with
  | zero =>
      rw [statement, block]
      exact ⟨fail_spends, fun start => fail_spends⟩
  | succ levels ih => exact ⟨statement_keeps_succ ih.2, block_proceeds_succ ih.1⟩

/-! ## Programs -/

theorem beginning_keeps : Keeps origin tokens beginning := by
  refine .quiet beginning_decides ?_ (fun _ _ holds _ => holds) ?_
  · intro start mark index
    change tally (start.log.push (.begun start.cursor.remaining)) mark index = _
    rw [tally_push]
    cases mark <;> rfl
  · intro position value holds decision
    cases decision

theorem program_keeps : Keeps origin tokens (program settings levels) := by
  rw [program_eq]
  exact beginning_keeps.bind fun _ => (statement_block_keep settings levels).2.keeps.bind
    fun _ => requireEnd_spends.bind fun _ => .done

theorem standalone_keeps : Keeps origin tokens (standalone settings levels) := by
  have separator : Spends tokens (statementBudget origin tokens 0) (Outside origin tokens)
      (accept ";") fun _ => Outside origin tokens :=
    (accept_spends fun _ (holds : Outside origin tokens _) front =>
      Outside.neutral holds.1 front (by decide)).reach
      fun accepted _ reached => by cases accepted <;> exact reached
  exact (statement_block_keep settings levels).1.bind fun _ => separator.bind fun _ =>
    requireEnd_spends.bind fun _ => .done

end Grammar

/-- What is recorded when a rule is called on some tokens. -/
def Rule.log (rule : Rule) (settings : Settings) (tokens : List Token) : List Event :=
  ((Session.ofTokens settings tokens).call rule).2.state.log.toList

namespace Rule

open Grammar

variable (settings : Settings) (tokens : List Token) (rule : Rule)

/-- A rule that is called by itself keeps to the budget of statements. -/
theorem run_spends :
    Spends tokens (statementBudget rule.origin tokens 0) (fun position => position = 0)
      (rule.run settings) fun _ _ => True := by
  have opening {α : Type} {f : α → Parsed} {read : RuleM α} (keeps : Keeps {} tokens read) :
      Spends tokens (statementBudget {} tokens 0) (fun position => position = 0) (f <$> read)
        fun _ _ => True := by
    refine (keeps.weaken ?_).map fun _ _ _ => trivial
    rintro position rfl
    exact ⟨List.not_mem_nil, rfl⟩
  obtain ⟨statement, block⟩ : Keeps {} tokens (Grammar.statement settings settings.maxDepth) ∧
      Proceeds {} tokens (Grammar.block settings settings.maxDepth) :=
    statement_block_keep settings _
  cases rule with
  | program => exact opening program_keeps
  | standalone => exact opening standalone_keeps
  | statement => exact opening statement
  | statements => exact opening (statementsOver_keeps statement)
  | block => exact opening block.keeps
  | conditional => exact opening (conditionalOver_proceeds block.keeps).keeps
  | loop => exact opening (loopOver_proceeds block.keeps).keeps
  | declaration => exact opening declaration_proceeds.keeps
  | assignment => exact opening assignment_proceeds.keeps
  | expression => exact opening expression_keeps
  | term => exact opening (keeps_of_stays fun _ => termOver_stays (factor_stays (Nat.zero_le _)))
  | factor => exact opening (keeps_of_stays fun _ => factor_stays (Nat.zero_le _))
  | condition =>
      refine (condition_heading.weaken ?_).map fun _ _ _ => trivial
      rintro position rfl
      exact ⟨[], List.not_mem_nil, rfl, rfl⟩

/-- What a rule tells of each token stays within the budget of statements. -/
theorem tally_le (mark : Mark) (index : Nat) :
    tally ((Session.ofTokens settings tokens).call rule).2.state.log mark index ≤
      statementBudget rule.origin tokens 0 mark index := by
  have spent := rule.run_spends settings tokens (Session.ofTokens settings tokens).state
    (by simp [Session.ofTokens, Session.start, Cursor.ofList, Cursor.ofArray]) rfl
  have fresh : tally (Session.ofTokens settings tokens).state.log mark index = 0 := by
    cases mark <;> rfl
  have bounded {last : Nat} {finish : State}
      (within : Within (statementBudget rule.origin tokens 0)
        (Session.ofTokens settings tokens).state last finish) :
      tally finish.log mark index ≤ statementBudget rule.origin tokens 0 mark index := by
    have total := within mark index
    rw [fresh, Nat.zero_add] at total
    exact Nat.le_trans total (share_le _ _ _ _ _)
  unfold Session.call
  cases run : (rule.run (Session.ofTokens settings tokens).settings).run
      (Session.ofTokens settings tokens).state with
  | ok parsed finish =>
      obtain ⟨-, -, -, within⟩ := spent.ok run
      exact bounded within
  | error error finish =>
      obtain ⟨-, within⟩ := spent.error run
      exact bounded within

/-- Whatever a rule is called on, it never goes back to a token twice, and only to parentheses that
open; it consumes a token at most once more for each group that is open around the token in its
condition, and once outside of conditions; and it begins no statement twice. -/
theorem backtracking_bounded :
    (Event.told .retreat (rule.log settings tokens)).Nodup ∧
      (∀ target ∈ Event.told .retreat (rule.log settings tokens), tokens[target]? = some "(") ∧
      (∀ index, (Event.told .reading (rule.log settings tokens)).count index ≤
        (rule.origin.reach tokens index).readings) ∧
      (Event.told .beginning (rule.log settings tokens)).Nodup := by
  have told : ∀ mark index, (Event.told mark (rule.log settings tokens)).count index ≤
      statementBudget rule.origin tokens 0 mark index := rule.tally_le settings tokens
  refine ⟨?_, ?_, ?_, ?_⟩
  · refine List.nodup_iff_count.mpr fun index => Nat.le_trans (told .retreat index) ?_
    simp only [statementBudget]
    split <;> omega
  · intro target member
    have once := Nat.lt_of_lt_of_le (List.count_pos_iff.mpr member) (told .retreat target)
    simp only [statementBudget] at once
    split at once
    next opens => exact opens
    next => exact absurd once (Nat.lt_irrefl 0)
  · intro index
    rw [readings_eq]
    exact told .reading index
  · refine List.nodup_iff_count.mpr fun index => Nat.le_trans (told .beginning index) ?_
    simp only [statementBudget]
    split <;> omega

/-- Two groups are tried before a comparison is read, and the bound is reached inside of both. -/
theorem backtracking_bounded_nested :
    Event.told .retreat (condition.log {} ["(", "(", "a", ")", "+", "1", ")", "<", "2"]) =
        [1, 0] ∧
      (Event.told .reading (condition.log {}
        ["(", "(", "a", ")", "+", "1", ")", "<", "2"])).count 2 = 3 ∧
      (condition.origin.reach ["(", "(", "a", ")", "+", "1", ")", "<", "2"] 2).readings = 3 ∧
      ["(", "(", "a", ")", "+", "1", ")", "<", "2"][1]? = some "(" := by
  have targets : Event.told .retreat
      (condition.log {} ["(", "(", "a", ")", "+", "1", ")", "<", "2"]) = [1, 0] := by decide
  obtain ⟨-, opens, -, -⟩ :=
    backtracking_bounded {} ["(", "(", "a", ")", "+", "1", ")", "<", "2"] .condition
  exact ⟨targets, by decide, by decide, opens 1 (targets ▸ List.mem_cons_self)⟩

end Rule

end BlockLang
