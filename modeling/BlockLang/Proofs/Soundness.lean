import BlockLang.Proofs.Viability

/-!
# What is read is derived

Every rule of the grammar conforms to its symbol: what it reads is derived with the value that it
gives and with no more levels than it was given, and what lies before its error begins the symbol,
also with any token that the error names as expected.
-/

namespace BlockLang.Grammar

variable {keyword : Token} {settings : Settings} {levels : Nat}

/-- The rule of a symbol conforms to it wherever it is run. -/
def Sound (settings : Settings) (levels : Nat) (symbol : Symbol) : Prop :=
  ∀ start, Conforms settings.keyword (symbol.rule settings levels) start
    (Derives settings.keyword levels symbol) (Begins settings.keyword symbol)

/-! ## Expressions and conditions -/

/-- A chain is read on behind a part of it that has been derived. -/
theorem chainFrom_sound {level : Level} (operands : Sound settings levels (.phrase level.operand))
    (bound : Nat) (left : Derivation settings.keyword (.chain level)) (fits : left.depth ≤ levels)
    (start : State) :
    Conforms settings.keyword
      (chainFrom level.admits (level.operand.rule settings levels) bound left.value) start
      (fun tokens => Derives settings.keyword levels (.chain level) (left.tokens ++ tokens))
      (fun tokens => Begins settings.keyword (.chain level) (left.tokens ++ tokens)) := by
  induction bound generalizing left start with
  | zero => exact .pure ⟨left, (List.append_nil _).symm, rfl, fits⟩
  | succ bound ih =>
      rw [chainFrom]
      apply Conforms.bind .acceptOperator
      rintro tokens found middle - (⟨rfl, rfl⟩ | ⟨operator, rfl, admits, rfl⟩)
      · exact .pure ⟨left, by simp, rfl, fits⟩
      · refine Conforms.bind ((operands middle).weaken
          fun tokens begun => begun.chain_of_right left admits) ?_
        rintro tokens value middle - ⟨right, rfl, rfl, fitsRight⟩
        have joined := ih (.joined level left operator admits right)
          (Nat.max_le.mpr ⟨fits, fitsRight⟩) middle
        simpa [Derivation.tokens, Derivation.value] using joined

/-- A chain is sound when its operands are. -/
theorem chain_sound {level : Level} (operands : Sound settings levels (.phrase level.operand)) :
    Sound settings levels (.chain level) := by
  intro start
  change Conforms _ ((Phrase.chain level).rule settings levels) start _ _
  rw [rule_chain]
  refine Conforms.bind ((operands start).weaken fun tokens begun => begun.chain_of_operand) ?_
  rintro tokens value middle - ⟨operand, rfl, rfl, fits⟩
  exact .remaining (chainFrom_sound operands _ (.single level operand) fits middle)

/-- What is read behind a parenthesis is closed by one. -/
theorem enclosed_sound {phrase : Phrase} (expectation : Expectation)
    (inner : Sound settings levels (.phrase phrase))
    (closes : ∀ token, expectation.Fits settings.keyword token → token = ")") (start : State) :
    Conforms settings.keyword (do
        let tree ← phrase.rule settings levels
        require ")" expectation
        return tree) start
      (fun tokens value => ∃ derivation : Derivation settings.keyword (.phrase phrase),
        tokens = derivation.tokens ++ [")"] ∧ derivation.value = value ∧
          derivation.depth ≤ levels)
      (fun tokens => ∃ derivation : Derivation settings.keyword (.phrase phrase),
        tokens <+: derivation.tokens ++ [")"]) := by
  refine Conforms.bind ((inner start).weaken ?_) ?_
  · rintro tokens ⟨derivation, part⟩
    exact ⟨derivation, part.trans (List.prefix_append _ _)⟩
  · rintro tokens value middle - ⟨derivation, rfl, rfl, fits⟩
    refine .bind (.require ?_) ?_
    · rintro further (_ | fits)
      · exact ⟨derivation, by simp⟩
      · rw [closes _ fits]
        exact ⟨derivation, List.prefix_rfl⟩
    · rintro tokens value middle - rfl
      exact .pure ⟨derivation, by simp, rfl, fits⟩

/-- What is named where an operand is expected begins a factor. -/
theorem begins_factor {token : Token}
    (fits : token = "(" ∨ ∃ tree, Tree.ofOperand token keyword = .ok tree) :
    Begins keyword .factor [token] := by
  rcases fits with rfl | ⟨tree, read⟩
  · exact Begins.factor_of_sum ⟨Derivation.zero.alone, List.nil_prefix⟩
  · obtain ⟨derivation, split, -, -⟩ := exists_factor read
    exact ⟨derivation, split ▸ List.prefix_rfl⟩

theorem operand_sound (settings : Settings) (levels : Nat) (start : State) :
    Conforms settings.keyword (operand settings) start
      (Derives settings.keyword levels .factor) (Begins settings.keyword .factor) := by
  have empty : Begins settings.keyword .factor [] := ⟨Derivation.zero, List.nil_prefix⟩
  refine .of_decides (operand_decides settings) (fun value decision => ?_)
    (fun value decision => ?_) fun kind cause decision => ?_
  · split at decision
    next => split at decision <;> cases decision
    next => cases decision
  · split at decision
    next token front =>
      split at decision
      next tree read =>
        cases decision
        obtain ⟨derivation, split, same, shallow⟩ := exists_factor read
        exact ⟨token, front, derivation, split, same,
          Nat.le_trans (Nat.le_of_eq shallow) (Nat.zero_le _)⟩
      next => cases decision
    next => cases decision
  · split at decision
    next token front =>
      split at decision
      next => cases decision
      next cause' refused =>
        cases decision
        rintro further (_ | fits)
        · exact empty
        · rcases Tree.cause_of_ofOperand refused with ⟨other, -⟩ | ⟨other, -⟩ | same
          · cases other
          · cases other
          · cases same
            exact begins_factor fits
    next =>
      cases decision
      rintro further (_ | fits)
      · exact empty
      · exact begins_factor fits

theorem factor_sound_of_group
    (group : ∀ start : State, start.cursor.peek = some "(" →
      Conforms settings.keyword (arithmeticGroup settings levels) start
        (Derives settings.keyword levels .factor) (Begins settings.keyword .factor)) :
    Sound settings levels .factor := by
  intro start
  apply Conforms.check
  by_cases opens : start.cursor.peek = some "("
  · rw [if_pos (by simp [opens])]
    exact group start opens
  · rw [if_neg (by simp [opens])]
    exact operand_sound settings levels start

/-- A group is derived by an operand in parentheses. -/
theorem arithmeticGroup_sound (settings : Settings) (levels : Nat) :
    ∀ start : State, start.cursor.peek = some "(" →
      Conforms settings.keyword (arithmeticGroup settings levels) start
        (Derives settings.keyword levels .factor) (Begins settings.keyword .factor) := by
  induction levels with
  | zero => exact fun start _ => .tooDeep ⟨Derivation.zero, List.nil_prefix⟩
  | succ levels ih =>
      intro start opens
      have inner : Sound settings levels .sum :=
        chain_sound (chain_sound (factor_sound_of_group ih))
      apply Conforms.bind (.advance opens)
      rintro tokens value middle - rfl
      refine (enclosed_sound .closeOperand inner (fun _ fits => fits) middle).mono ?_ ?_
      · rintro tokens value ⟨derivation, rfl, same, fits⟩
        exact ⟨.parenthesized derivation, rfl, same, Nat.succ_le_succ fits⟩
      · rintro tokens ⟨derivation, part⟩
        exact ⟨.parenthesized derivation, (List.prefix_append_right_inj ["("]).mpr part⟩

theorem factor_sound (settings : Settings) (levels : Nat) : Sound settings levels .factor :=
  factor_sound_of_group (arithmeticGroup_sound settings levels)

theorem expression_sound (settings : Settings) (levels : Nat) : Sound settings levels .sum :=
  chain_sound (chain_sound (factor_sound settings levels))

theorem comparison_sound (settings : Settings) (levels : Nat) (start : State) :
    Conforms settings.keyword (comparison settings levels) start
      (Derives settings.keyword levels .atom) (Begins settings.keyword .atom) := by
  refine .bind ((expression_sound settings levels start).weaken
    fun tokens begun => begun.atom_of_left) ?_
  rintro tokens value middle - ⟨left, rfl, rfl, fitsLeft⟩
  apply Conforms.bind .acceptOperator
  rintro tokens found middle - (⟨rfl, rfl⟩ | ⟨operator, rfl, relational, rfl⟩)
  · apply Conforms.refuse
    rintro further (_ | ⟨operator, relational, rfl⟩)
    · refine Begins.atom_of_left ⟨left, ?_⟩
      simp
    · have empty : Begins settings.keyword .sum [] := ⟨Derivation.zero.alone, List.nil_prefix⟩
      exact empty.atom_of_right left relational
  · refine .last ((expression_sound settings levels middle).weaken ?_)
      (fun right => Tree.binary operator left.value right) ?_
    · intro tokens begun
      simpa using begun.atom_of_right left relational
    · rintro tokens value ⟨right, rfl, rfl, fitsRight⟩
      refine ⟨.comparison left operator relational right, ?_, rfl, Nat.max_le.mpr
        ⟨fitsLeft, fitsRight⟩⟩
      simp [Derivation.tokens]

/-- An atom conforms however a parenthesis is read, since both readings do. -/
theorem atom_sound_of_group
    (group : ∀ start, Conforms settings.keyword (conditionGroup settings levels) start
      (Derives settings.keyword levels .atom) (Begins settings.keyword .atom)) :
    Sound settings levels .atom := by
  intro start
  change Conforms _ (atom settings levels) start _ _
  by_cases opens : start.cursor.peek = some "("
  · have reading := openAtom_run settings levels opens
    constructor
    · intro value finish run
      rw [run] at reading
      cases reading with
      | group grouped => exact (group start).ok grouped
      | @comparison first stop finish tree refused shallow compared =>
          exact (comparison_sound settings levels (stop.back start.cursor)).ok compared
    · intro error finish run
      rw [run] at reading
      cases reading with
      | tooDeep refused deep => exact (group start).error refused
      | @neither first second stop finish refused shallow compared =>
          rw [farther]
          split
          · exact (comparison_sound settings levels (stop.back start.cursor)).error compared
          · exact (group start).error refused
  · have compared := comparison_sound settings levels start
    constructor
    · intro value finish run
      rw [run_atom_of_not_open opens] at run
      exact compared.ok run
    · intro error finish run
      rw [run_atom_of_not_open opens] at run
      exact compared.error run

theorem conditionGroup_sound (settings : Settings) (levels : Nat) (start : State) :
    Conforms settings.keyword (conditionGroup settings levels) start
      (Derives settings.keyword levels .atom) (Begins settings.keyword .atom) := by
  have empty : Begins settings.keyword .condition [] := ⟨Derivation.truth, List.nil_prefix⟩
  induction levels generalizing start with
  | zero => exact .tooDeep ⟨Derivation.zero.alone.zeroTest, List.nil_prefix⟩
  | succ levels ih =>
      have inner : Sound settings levels .condition :=
        chain_sound (chain_sound (atom_sound_of_group ih))
      refine .bind (.require ?_) ?_
      · rintro further (_ | rfl)
        · exact ⟨Derivation.zero.alone.zeroTest, List.nil_prefix⟩
        · exact empty.atom_of_condition
      · rintro tokens value middle - rfl
        refine (enclosed_sound .closeGroup inner (fun _ fits => fits) middle).mono ?_ ?_
        · rintro tokens value ⟨derivation, rfl, same, fits⟩
          exact ⟨.group derivation, rfl, same, Nat.succ_le_succ fits⟩
        · rintro tokens ⟨derivation, part⟩
          exact ⟨.group derivation, (List.prefix_append_right_inj ["("]).mpr part⟩

theorem condition_sound (settings : Settings) (levels : Nat) :
    Sound settings levels .condition :=
  chain_sound (chain_sound (atom_sound_of_group (conditionGroup_sound settings levels)))

/-! ## Statements -/

theorem begins_statement : Begins keyword .statement [] :=
  ⟨.nested .hollow, List.nil_prefix⟩

/-- What follows a fixed word is a condition in parentheses. -/
theorem headCondition_sound (settings : Settings) (levels : Nat) (word : Keyword) (start : State) :
    Conforms settings.keyword (headCondition settings levels word) start
      (fun tokens value => ∃ derivation : Derivation settings.keyword .condition,
        tokens = word.text :: "(" :: derivation.tokens ++ [")"] ∧ derivation.value = value ∧
          derivation.depth ≤ levels)
      (fun tokens => ∃ derivation : Derivation settings.keyword .condition,
        tokens <+: word.text :: "(" :: derivation.tokens ++ [")"]) := by
  refine .bind (.require ?_) ?_
  · rintro further (_ | rfl)
    · exact ⟨.truth, List.nil_prefix⟩
    · exact ⟨.truth, List.prefix_append [word.text] _⟩
  rintro tokens value middle - rfl
  refine .bind (.require ?_) ?_
  · rintro further (_ | rfl)
    · exact ⟨.truth, List.prefix_append [word.text] _⟩
    · exact ⟨.truth, List.prefix_append [word.text, "("] _⟩
  rintro tokens value middle - rfl
  refine (enclosed_sound (.closeCondition word) (condition_sound settings levels)
    (fun _ fits => fits) middle).mono ?_ ?_
  · rintro tokens value ⟨derivation, rfl, same, fits⟩
    exact ⟨derivation, rfl, same, fits⟩
  · rintro tokens ⟨derivation, part⟩
    exact ⟨derivation, (List.prefix_append_right_inj [word.text, "("]).mpr part⟩

section Bodies

variable (blocks : Sound settings levels .block) (start : State)
include blocks

theorem conditional_sound :
    Conforms settings.keyword (conditionalOver settings levels (block settings levels)) start
      (Derives settings.keyword (levels + 1) .statement)
      (Begins settings.keyword .statement) := by
  refine .bind ((headCondition_sound settings levels .ifWord start).weaken ?_) ?_
  · rintro tokens ⟨condition, part⟩
    refine ⟨.ifThen condition .hollow, part.trans ?_⟩
    simp [Derivation.tokens]
  rintro tokens value middle - ⟨condition, rfl, rfl, fitsCondition⟩
  refine .bind ((blocks middle).weaken ?_) ?_
  · intro tokens begun
    simpa using begun.statement_of_ifThen condition
  rintro tokens value middle - ⟨body, rfl, rfl, fitsBody⟩
  apply Conforms.bind .accept
  rintro tokens (_ | _) middle - rfl
  · refine .pure ⟨.ifThen condition body, by simp [Derivation.tokens], rfl, ?_⟩
    exact Nat.succ_le_succ (Nat.max_le.mpr ⟨fitsCondition, fitsBody⟩)
  · refine .last ((blocks middle).weaken ?_)
      (fun alternative => Tree.ifThenElse condition.value body.value alternative) ?_
    · intro tokens begun
      simpa using begun.statement_of_ifThenElse condition body
    · rintro tokens value ⟨alternative, rfl, rfl, fitsAlternative⟩
      refine ⟨.ifThenElse condition body alternative, by simp [Derivation.tokens], rfl, ?_⟩
      exact Nat.succ_le_succ (Nat.max_le.mpr
        ⟨fitsCondition, Nat.max_le.mpr ⟨fitsBody, fitsAlternative⟩⟩)

theorem loop_sound :
    Conforms settings.keyword (loopOver settings levels (block settings levels)) start
      (Derives settings.keyword (levels + 1) .statement)
      (Begins settings.keyword .statement) := by
  refine .bind ((headCondition_sound settings levels .whileWord start).weaken ?_) ?_
  · rintro tokens ⟨condition, part⟩
    refine ⟨.loop condition .hollow, part.trans ?_⟩
    simp [Derivation.tokens]
  rintro tokens value middle - ⟨condition, rfl, rfl, fitsCondition⟩
  refine .last ((blocks middle).weaken ?_) (fun body => Tree.loop condition.value body) ?_
  · intro tokens begun
    simpa using begun.statement_of_loop condition
  · rintro tokens value ⟨body, rfl, rfl, fitsBody⟩
    refine ⟨.loop condition body, by simp [Derivation.tokens], rfl, ?_⟩
    exact Nat.succ_le_succ (Nat.max_le.mpr ⟨fitsCondition, fitsBody⟩)

end Bodies

/-- Some names with commas between them. -/
def ListsNames (keyword : Token) (tokens names : List Token) : Prop :=
  ∃ first others, names = first :: others ∧ (∀ name ∈ names, name.isName keyword = true) ∧
    tokens = first :: others.flatMap fun name => [",", name]

theorem namesFrom_sound (settings : Settings) (bound : Nat) (start : State) :
    Conforms settings.keyword (namesFrom settings bound) start (ListsNames settings.keyword)
      (fun tokens =>
        ∃ whole names, ListsNames settings.keyword whole names ∧ tokens <+: whole) := by
  have alone {name : Token} (named : name.isName settings.keyword = true) :
      ListsNames settings.keyword [name] [name] :=
    ⟨name, [], rfl, by simpa using named, rfl⟩
  obtain ⟨sample, named⟩ := exists_isName settings.keyword
  have suggested (further : List Token)
      (suggests : (ErrorCause.expected .identifier).Suggests settings.keyword further) :
      ∃ whole names, ListsNames settings.keyword whole names ∧ further <+: whole := by
    rcases suggests with _ | fits
    · exact ⟨_, _, alone named, List.nil_prefix⟩
    · exact ⟨_, _, alone fits, List.prefix_rfl⟩
  induction bound generalizing start with
  | zero => exact .refuse suggested
  | succ bound ih =>
      apply Conforms.bind (.name suggested)
      rintro tokens first middle - ⟨namedFirst, rfl⟩
      apply Conforms.bind .accept
      rintro tokens (_ | _) middle - rfl
      · exact .pure (alone namedFirst)
      · have longer {tokens names : List Token} (lists : ListsNames settings.keyword tokens names) :
            ListsNames settings.keyword (first :: "," :: tokens) (first :: names) := by
          obtain ⟨second, others, rfl, namedOthers, rfl⟩ := lists
          refine ⟨first, second :: others, rfl, ?_, rfl⟩
          rintro name (_ | ⟨_, member⟩)
          · exact namedFirst
          · exact namedOthers name member
        refine .last ((ih middle).weaken ?_) (fun others => first :: others)
          fun tokens others lists => longer lists
        rintro tokens ⟨whole, names, lists, part⟩
        exact ⟨_, _, longer lists, (List.prefix_append_right_inj [first, ","]).mpr part⟩

theorem declaration_sound (settings : Settings) (start : State) :
    Conforms settings.keyword (declaration settings) start
      (Derives settings.keyword (levels + 1) .statement)
      (Begins settings.keyword .statement) := by
  obtain ⟨sample, named⟩ := exists_isName settings.keyword
  rw [declaration_eq]
  refine .bind (.require ?_) ?_
  · rintro further (_ | rfl)
    · exact begins_statement
    · exact ⟨.declaration sample [] (by simpa using named), List.prefix_append [settings.keyword] _⟩
  rintro tokens value middle - rfl
  rw [map_eq_pure_bind]
  refine .last ((Conforms.remaining (namesFrom_sound settings _ middle)).weaken ?_) Tree.declare ?_
  · rintro tokens ⟨whole, names, ⟨first, others, rfl, named, rfl⟩, part⟩
    exact ⟨.declaration first others named,
      (List.prefix_append_right_inj [settings.keyword]).mpr part⟩
  · rintro tokens names ⟨first, others, rfl, named, rfl⟩
    exact ⟨.declaration first others named, rfl, rfl, Nat.succ_le_succ (Nat.zero_le _)⟩

theorem assignment_sound (settings : Settings) (levels : Nat) (start : State) :
    Conforms settings.keyword (assignment settings levels) start
      (Derives settings.keyword (levels + 1) .statement)
      (Begins settings.keyword .statement) := by
  have empty : Begins settings.keyword .sum [] := ⟨Derivation.zero.alone, List.nil_prefix⟩
  have target {token : Token} (named : token.isName settings.keyword = true) :
      Begins settings.keyword .statement [token, Token.assign] :=
    empty.statement_of_sum named
  refine .bind (.name ?_) ?_
  · rintro further (_ | named)
    · exact begins_statement
    · obtain ⟨derivation, part⟩ := target named
      exact ⟨derivation, (List.prefix_append [_] [Token.assign]).trans part⟩
  rintro tokens name middle - ⟨named, rfl⟩
  refine .bind (.require ?_) ?_
  · rintro further (_ | rfl)
    · obtain ⟨derivation, part⟩ := target named
      exact ⟨derivation, (List.prefix_append [name] [Token.assign]).trans part⟩
    · exact target named
  rintro tokens value middle - rfl
  refine .last ((expression_sound settings levels middle).weaken ?_)
    (fun value => Tree.assign name value) ?_
  · exact fun tokens begun => begun.statement_of_sum named
  · rintro tokens value ⟨derivation, rfl, rfl, fits⟩
    exact ⟨.assignment name named derivation, rfl, rfl, Nat.succ_le_succ fits⟩

theorem statementOf_sound (blocks : Sound settings levels .block) (first : Token) (start : State) :
    Conforms settings.keyword (statementOf settings levels first) start
      (Derives settings.keyword (levels + 1) .statement)
      (Begins settings.keyword .statement) := by
  unfold statementOf
  split
  next => exact conditional_sound blocks start
  next =>
    split
    next => exact loop_sound blocks start
    next =>
      split
      next =>
        refine .last ((blocks start).weaken ?_) (fun body => Tree.block body) ?_
        · exact fun tokens begun => begun.statement_of_block
        · rintro tokens value ⟨body, rfl, rfl, fits⟩
          exact ⟨.nested body, rfl, rfl, Nat.succ_le_succ fits⟩
      next =>
        split
        next => exact declaration_sound settings start
        next => exact assignment_sound settings levels start

theorem statement_sound_succ (blocks : Sound settings levels .block) :
    Sound settings (levels + 1) .statement := by
  intro start
  change Conforms _ (statement settings (levels + 1)) start _ _
  rw [statement_succ]
  apply Conforms.peek
  cases start.cursor.peek with
  | none =>
      apply Conforms.refuse
      rintro further (_ | ⟨⟨⟩⟩)
      exact begins_statement
  | some first =>
      apply Conforms.bind (.of_leave (dispatch_decides first))
      rintro tokens value middle - rfl
      exact statementOf_sound blocks first middle

/-- What lies in a block is derived up to the brace that closes it. -/
theorem statementsFrom_sound (one : Sound settings levels .statement) (bound : Nat)
    (start : State) :
    Conforms settings.keyword (statementsFrom (statement settings levels) bound) start
      (Derives settings.keyword levels .statements)
      (fun tokens => Begins settings.keyword .block ("\x7b" :: tokens)) := by
  have suggested (further : List Token)
      (suggests : (ErrorCause.expected .closeBlock).Suggests settings.keyword further) :
      Begins settings.keyword .block ("\x7b" :: further) := by
    rcases suggests with _ | rfl
    · exact ⟨.hollow, List.prefix_append ["\x7b"] _⟩
    · exact ⟨.hollow, List.prefix_rfl⟩
  induction bound generalizing start with
  | zero => exact .unterminated suggested
  | succ bound ih =>
      rw [statementsFrom]
      apply Conforms.peek
      cases start.cursor.peek with
      | none => exact .unterminated suggested
      | some token =>
          dsimp only
          by_cases closes : token = "\x7d"
          · rw [if_pos closes]
            exact .pure ⟨.empty, rfl, rfl, Nat.zero_le _⟩
          rw [if_neg closes]
          refine .bind ((one start).weaken fun tokens begun => begun.block_of_statement) ?_
          rintro tokens value middle - ⟨first, rfl, rfl, fitsFirst⟩
          have separated (further : List Token)
              (suggests : (ErrorCause.expected .separator).Suggests settings.keyword further) :
              Begins settings.keyword .block ("\x7b" :: (first.tokens ++ further)) := by
            refine ⟨.braces (.cons first .empty), ?_⟩
            rcases suggests with _ | rfl <;> simp [Derivation.tokens]
          apply Conforms.peek
          cases front : middle.cursor.peek with
          | none => exact .unterminated separated
          | some separator =>
              dsimp only
              by_cases separates : separator = ";"
              · rw [if_pos separates]
                apply Conforms.bind (.advance (front.trans (congrArg some separates)))
                rintro tokens value middle - rfl
                refine .last ((ih middle).weaken ?_) (fun others => first.value :: others) ?_
                · intro tokens begun
                  simpa using begun.block_of_statements first
                · rintro tokens value ⟨others, rfl, rfl, fitsOthers⟩
                  exact ⟨.cons first others, by simp [Derivation.tokens], rfl,
                    Nat.max_le.mpr ⟨fitsFirst, fitsOthers⟩⟩
              · rw [if_neg separates]
                exact .refuse separated

theorem block_sound_succ (one : Sound settings levels .statement) :
    Sound settings (levels + 1) .block := by
  intro start
  change Conforms _ (block settings (levels + 1)) start _ _
  rw [block_succ]
  refine .bind (.brace ?_) ?_
  · rintro further (_ | rfl)
    · exact ⟨.hollow, List.nil_prefix⟩
    · exact ⟨.hollow, List.prefix_append ["\x7b"] _⟩
  rintro tokens value middle - rfl
  apply Conforms.bind (.remaining (statementsFrom_sound one _ middle))
  rintro tokens value middle - ⟨statements, rfl, rfl, fits⟩
  refine .bind (.brace ?_) ?_
  · rintro further (_ | rfl)
    · exact ⟨.braces statements, by simp [Derivation.tokens]⟩
    · exact ⟨.braces statements, List.prefix_rfl⟩
  rintro tokens value middle - rfl
  exact .pure ⟨.braces statements, by simp [Derivation.tokens], rfl, Nat.succ_le_succ fits⟩

theorem statement_block_sound (settings : Settings) (levels : Nat) :
    Sound settings levels .statement ∧ Sound settings levels .block := by
  induction levels with
  | zero =>
      exact ⟨fun start => .tooDeep begins_statement,
        fun start => .tooDeep ⟨.hollow, List.nil_prefix⟩⟩
  | succ levels ih => exact ⟨statement_sound_succ ih.2, block_sound_succ ih.1⟩

end BlockLang.Grammar
