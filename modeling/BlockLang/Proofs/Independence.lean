import BlockLang.Grammar.Call
import BlockLang.Proofs.Parenthesis

/-!
# Every rule is local

A condition reads a parenthesis twice if the first reading fails. Even so it looks no farther than
the token at which it stops: a group that is given up failed before the comparison ended, and of two
errors the farther one is reported. So every rule tracks itself under wider limits, and what it does
depends neither on the tokens behind the one at which it stops nor on those before it began.
-/

namespace BlockLang

namespace Grammar

variable {strict : Prop} {settings settings' : Settings} {levels levels' : Nat}

/-! ## Conditions -/

section Choice

variable {start start' finish : State}

/-- An atom that is read is tracked by an atom of the wider limits. -/
theorem atom_tracks_ok (widens : Widens strict settings levels settings' levels')
    (group : Tracks strict (conditionGroup settings levels) (conditionGroup settings' levels'))
    (opens : start.cursor.peek = some "(") {tree : Tree}
    (reading : OpenAtom settings levels start (.ok tree finish)) :
    ∃ tokens, start.cursor.Reads tokens finish.cursor ∧
      (start'.cursor.Continues tokens finish.cursor.peek →
        ∃ finish', (atom settings' levels').run start' = .ok tree finish' ∧
          start'.cursor.Reads tokens finish'.cursor) := by
  cases reading with
  | group grouped =>
      obtain ⟨tokens, reads⟩ := group.reads grouped
      refine ⟨tokens, reads, fun agree => ?_⟩
      have opens' := (reads.continues.peek_eq agree).trans opens
      obtain ⟨finish', grouped', reads'⟩ := group.follow_ok grouped reads agree
      exact ⟨finish', (OpenAtom.group grouped').run_eq opens', reads'⟩
  | @comparison first stop finish tree refused shallow compared =>
      have back : start.cursor = (stop.back start.cursor).cursor := rfl
      have before := position_lt_of_comparison opens back refused compared
      obtain ⟨read, seen, readsGroup, -, lies⟩ := group.lies refused
      obtain ⟨tokens, reads⟩ := (comparison_tracks widens).reads compared
      rw [← back] at reads
      refine ⟨tokens, reads, fun agree => ?_⟩
      have opens' := (reads.continues.peek_eq agree).trans opens
      have shorter : seen.length ≤ tokens.length := by
        rw [lies.position_eq, reads.position_eq] at before
        omega
      obtain ⟨stop', refused', -⟩ := group.follow_error refused readsGroup lies
        (reads.continues.narrow lies.found shorter agree) fun truth => absurd truth shallow
      have again : (stop'.back start'.cursor).cursor.Continues tokens finish.cursor.peek := agree
      obtain ⟨finish', compared', reads'⟩ :=
        (comparison_tracks widens).follow_ok compared reads again
      exact ⟨finish', (OpenAtom.comparison refused' shallow compared').run_eq opens', reads'⟩

/-- An atom that is refused is tracked by an atom of the wider limits. -/
theorem atom_tracks_error (widens : Widens strict settings levels settings' levels')
    (group : Tracks strict (conditionGroup settings levels) (conditionGroup settings' levels'))
    (opens : start.cursor.peek = some "(") {error : SyntaxError}
    (reading : OpenAtom settings levels start (.error error finish)) :
    ∃ read seen, start.cursor.Reads read finish.cursor ∧ read <+: seen ∧
      error.LiesBehind seen start.cursor ∧
      (start'.cursor.Continues seen error.found → (error.kind = .nestingTooDeep → strict) →
        ∃ finish', (atom settings' levels').run start' =
            .error (error.moved (start'.cursor.position + seen.length)) finish' ∧
          start'.cursor.Reads read finish'.cursor) := by
  cases reading with
  | tooDeep refused deep =>
      obtain ⟨read, seen, reads, part, lies⟩ := group.lies refused
      refine ⟨read, seen, reads, part, lies, fun agree truth => ?_⟩
      have opens' := (lies.found.peek_eq agree).trans opens
      obtain ⟨finish', refused', reads'⟩ := group.follow_error refused reads lies agree truth
      exact ⟨finish', (OpenAtom.tooDeep refused' deep).run_eq opens', reads'⟩
  | @neither first second stop finish refused shallow compared =>
      have back : start.cursor = (stop.back start.cursor).cursor := rfl
      obtain ⟨readGroup, seen, readsGroup, -, lies⟩ := group.lies refused
      obtain ⟨read, seen', reads, part, lies'⟩ := (comparison_tracks widens).lies compared
      rw [← back] at reads lies'
      have position := lies.position_eq
      have position' := lies'.position_eq
      by_cases order : first.position ≤ second.position
      · rw [farther, if_pos order]
        refine ⟨read, seen', reads, part, lies', fun agree truth => ?_⟩
        have opens' := (lies'.found.peek_eq agree).trans opens
        obtain ⟨stop', refused', -⟩ := group.follow_error refused readsGroup lies
          (lies'.found.narrow lies.found (by omega) agree) fun truth => absurd truth shallow
        have again : (stop'.back start'.cursor).cursor.Continues seen' second.found := agree
        obtain ⟨finish', compared', reads'⟩ :=
          (comparison_tracks widens).follow_error compared reads lies' again truth
        refine ⟨finish', ?_, reads'⟩
        rw [(OpenAtom.neither refused' shallow compared').run_eq opens', farther, if_pos]
        · rfl
        · change start'.cursor.position + seen.length ≤ start'.cursor.position + seen'.length
          omega
      · rw [farther, if_neg order]
        have inside : seen' <+: seen :=
          List.prefix_of_prefix_length_le lies'.isPrefix lies.isPrefix (by omega)
        refine ⟨read, seen, reads, part.trans inside, lies, fun agree truth => ?_⟩
        have opens' := (lies.found.peek_eq agree).trans opens
        obtain ⟨stop', refused', -⟩ := group.follow_error refused readsGroup lies agree truth
        -- the comparison cannot nest too deep, because its error would then be the farther one
        have again : (stop'.back start'.cursor).cursor.Continues seen' second.found :=
          lies.found.narrow lies'.found (by omega) agree
        obtain ⟨finish', compared', reads'⟩ :=
          (comparison_tracks widens).follow_error compared reads lies' again fun deep =>
            absurd (position_le_of_tooDeep opens back refused compared deep shallow) order
        refine ⟨finish', ?_, reads'⟩
        rw [(OpenAtom.neither refused' shallow compared').run_eq opens', farther, if_neg]
        change ¬ start'.cursor.position + seen.length ≤ start'.cursor.position + seen'.length
        omega

end Choice

/-- Atoms track each other when the groups inside them do. -/
theorem atom_tracks (widens : Widens strict settings levels settings' levels')
    (group : Tracks strict (conditionGroup settings levels) (conditionGroup settings' levels')) :
    Tracks strict (atom settings levels) (atom settings' levels') := by
  intro start start'
  by_cases opens : start.cursor.peek = some "("
  · have reading := openAtom_run settings levels opens
    constructor
    · intro tree finish run
      rw [run] at reading
      exact atom_tracks_ok widens group opens reading
    · intro error finish run
      rw [run] at reading
      exact atom_tracks_error widens group opens reading
  · constructor
    · intro tree finish run
      rw [run_atom_of_not_open opens] at run
      obtain ⟨tokens, reads⟩ := (comparison_tracks widens).reads run
      refine ⟨tokens, reads, fun agree => ?_⟩
      have opens' : start'.cursor.peek ≠ some "(" := by
        rw [reads.continues.peek_eq agree]
        exact opens
      rw [run_atom_of_not_open opens']
      exact (comparison_tracks widens).follow_ok run reads agree
    · intro error finish run
      rw [run_atom_of_not_open opens] at run
      obtain ⟨read, seen, reads, part, lies⟩ := (comparison_tracks widens).lies run
      refine ⟨read, seen, reads, part, lies, fun agree truth => ?_⟩
      have opens' : start'.cursor.peek ≠ some "(" := by
        rw [lies.found.peek_eq agree]
        exact opens
      rw [run_atom_of_not_open opens']
      exact (comparison_tracks widens).follow_error run reads lies agree truth

/-- Conditions track each other when the groups inside them do. -/
theorem condition_tracks_of_group (widens : Widens strict settings levels settings' levels')
    (group : Tracks strict (conditionGroup settings levels) (conditionGroup settings' levels'))
    (first : Local (conditionGroup settings levels))
    (second : Local (conditionGroup settings' levels')) :
    Tracks strict (condition settings levels) (condition settings' levels') := by
  have atoms := atom_tracks (.refl settings levels) first
  have atoms' := atom_tracks (.refl settings' levels') second
  exact chain_tracks (chain_tracks (atom_tracks widens group) atoms atoms') (chain_local atoms)
    (chain_local atoms')

theorem conditionGroup_local (settings : Settings) (levels : Nat) :
    Local (conditionGroup settings levels) := by
  induction levels with
  | zero => exact tooDeep_tracks fun _ => rfl
  | succ levels ih =>
      have inside := condition_tracks_of_group (.refl settings levels) ih ih ih
      exact (require_tracks "(" .openGroup).bind fun _ => inside.bind fun tree =>
        (require_tracks ")" .closeGroup).bind fun _ => .pure tree

theorem conditionGroup_tracks (widens : Widens strict settings levels settings' levels') :
    Tracks strict (conditionGroup settings levels) (conditionGroup settings' levels') := by
  induction levels generalizing levels' with
  | zero =>
      refine tooDeep_tracks fun truth => ?_
      obtain ⟨rfl, rfl⟩ := widens.eq truth
      rfl
  | succ levels ih =>
      obtain ⟨more, rfl⟩ := widens.exists_succ
      have inside := condition_tracks_of_group widens.pred (ih widens.pred)
        (conditionGroup_local settings levels) (conditionGroup_local settings' more)
      exact (require_tracks "(" .openGroup).bind fun _ => inside.bind fun tree =>
        (require_tracks ")" .closeGroup).bind fun _ => .pure tree

theorem atom_local (settings : Settings) (levels : Nat) : Local (atom settings levels) :=
  atom_tracks (.refl settings levels) (conditionGroup_local settings levels)

theorem condition_tracks (widens : Widens strict settings levels settings' levels') :
    Tracks strict (condition settings levels) (condition settings' levels') :=
  condition_tracks_of_group widens (conditionGroup_tracks widens)
    (conditionGroup_local settings levels) (conditionGroup_local settings' levels')

/-! ## Statements -/

theorem accept_tracks (lexeme : Token) : Tracks strict (accept lexeme) (accept lexeme) :=
  (accept_decides lexeme).tracks_self

theorem peek_tracks : Tracks strict peek peek :=
  peek_decides.tracks_self

theorem unterminated_tracks {α : Type} (expectation : Expectation) :
    Tracks strict (unterminated expectation : RuleM α) (unterminated expectation) :=
  (fail_decides .unterminatedBlock (.expected expectation)).tracks_self

theorem name_tracks (keyword : settings'.keyword = settings.keyword) (kind : ErrorKind)
    (expectation : Expectation) :
    Tracks strict (name settings kind expectation) (name settings' kind expectation) := by
  apply (name_decides settings kind expectation).tracks
  rw [← keyword]
  exact name_decides settings' kind expectation

/-- One round of a list of names reads a name and a comma. -/
def namesRound (settings : Settings) (further : Unit → RuleM (List Token)) (_ : Unit) :
    RuleM (List Token) := do
  let first ← name settings .invalidIdentifier .identifier
  if ← accept "," then
    return first :: (← further ())
  else
    return [first]

/-- The names of a declaration. -/
def names (settings : Settings) : RuleM (List Token) := do
  namesFrom settings (← remaining)

/-- Each name consumes a token. -/
theorem names_isLoop (settings : Settings) :
    IsLoop (fun bound (_ : Unit) => namesFrom settings bound) (namesRound settings) where
  zero := by
    intro further _ start exhausted
    rw [namesFrom, namesRound, EStateM.run_bind,
      run_name_of_none (peek_eq_none_of_remaining exhausted)]
    rfl
  succ := fun _ _ => rfl
  congr := by
    intro further further' _ start agree
    rw [namesRound, namesRound, EStateM.run_bind, EStateM.run_bind]
    cases runName : (name settings .invalidIdentifier .identifier).run start with
    | error error middle => rfl
    | ok first middle =>
        have shorter := remaining_lt_of_name runName
        dsimp only
        rw [EStateM.run_bind, EStateM.run_bind]
        cases runAccept : (accept ",").run middle with
        | error error after => rfl
        | ok accepted after =>
            have tracks : Local (accept ",") := accept_tracks ","
            have kept := tracks.remaining_le_of_ok runAccept
            cases accepted with
            | false => rfl
            | true =>
                dsimp only
                rw [if_pos rfl, if_pos rfl, EStateM.run_bind, EStateM.run_bind,
                  agree () after (Nat.lt_of_le_of_lt kept shorter)]

theorem names_unfold (settings : Settings) :
    names settings = namesRound settings (fun _ => names settings) () :=
  (names_isLoop settings).unfold ()

theorem names_tracks (keyword : settings'.keyword = settings.keyword) :
    Tracks strict (names settings) (names settings') := by
  refine (names_isLoop settings).tracks (names_isLoop settings')
    (fun _ => refuse_tracks .invalidIdentifier .identifier) ?_ ()
  intro further further' ih _
  exact (name_tracks keyword .invalidIdentifier .identifier).bind fun first =>
    (accept_tracks ",").bind fun _ => .ite ((ih ()).bind fun others => .pure _) (.pure _)

theorem declaration_eq (settings : Settings) :
    declaration settings =
      require settings.keyword (.word settings.keyword) >>= fun _ =>
        .declare <$> names settings := by
  simp only [declaration, names, map_eq_pure_bind, bind_assoc]

theorem declaration_tracks (keyword : settings'.keyword = settings.keyword) :
    Tracks strict (declaration settings) (declaration settings') := by
  rw [declaration_eq, declaration_eq, keyword]
  exact (require_tracks settings.keyword (.word settings.keyword)).bind fun _ =>
    (names_tracks keyword).map Tree.declare

theorem assignment_tracks (widens : Widens strict settings levels settings' levels') :
    Tracks strict (assignment settings levels) (assignment settings' levels') :=
  (name_tracks widens.keyword .invalidTarget .target).bind fun _ =>
    (require_tracks Token.assign .assignment).bind fun _ =>
      (expression_tracks widens).bind fun _ => .pure _

theorem headCondition_tracks (widens : Widens strict settings levels settings' levels')
    (keyword : Keyword) :
    Tracks strict (headCondition settings levels keyword)
      (headCondition settings' levels' keyword) :=
  (require_tracks keyword.text (.word keyword.text)).bind fun _ =>
    (require_tracks "(" (.openCondition keyword)).bind fun _ =>
      (condition_tracks widens).bind fun _ =>
        (require_tracks ")" (.closeCondition keyword)).bind fun _ => .pure _

section Bodies

variable {body body' : RuleM (List Tree)} {rule rule' : RuleM Tree}

theorem conditionalOver_tracks (widens : Widens strict settings levels settings' levels')
    (tracks : Tracks strict body body') :
    Tracks strict (conditionalOver settings levels body)
      (conditionalOver settings' levels' body') :=
  (headCondition_tracks widens .ifWord).bind fun _ => tracks.bind fun _ =>
    (accept_tracks Keyword.elseWord.text).bind fun _ =>
      .ite (tracks.bind fun _ => .pure _) (.pure _)

theorem loopOver_tracks (widens : Widens strict settings levels settings' levels')
    (tracks : Tracks strict body body') :
    Tracks strict (loopOver settings levels body) (loopOver settings' levels' body') :=
  (headCondition_tracks widens .whileWord).bind fun _ => tracks.bind fun _ => .pure _

/-- One round of a list of statements reads a statement and a separator. -/
def statementsRound (rule : RuleM Tree) (further : Unit → RuleM (List Tree)) (_ : Unit) :
    RuleM (List Tree) := do
  match ← peek with
  | none => unterminated .closeBlock
  | some token =>
      if token = "\x7d" then
        return []
      else
        let first ← rule
        match ← peek with
        | none => unterminated .separator
        | some separator =>
            if separator = ";" then
              advance
              return first :: (← further ())
            else
              refuse .missingSeparator .separator

/-- Each statement is followed by a separator, which is consumed. -/
theorem statements_isLoop (tracks : Local rule) :
    IsLoop (fun bound (_ : Unit) => statementsFrom rule bound) (statementsRound rule) where
  zero := by
    intro further _ start exhausted
    rw [statementsFrom, statementsRound, EStateM.run_bind, run_peek,
      peek_eq_none_of_remaining exhausted]
  succ := fun _ _ => rfl
  congr := by
    intro further further' _ start agree
    rw [statementsRound, statementsRound, EStateM.run_bind, EStateM.run_bind, run_peek]
    dsimp only
    cases start.cursor.peek with
    | none => rfl
    | some token =>
        dsimp only
        by_cases closes : token = "\x7d"
        · rw [if_pos closes, if_pos closes]
        · rw [if_neg closes, if_neg closes, EStateM.run_bind, EStateM.run_bind]
          cases run : rule.run start with
          | error error middle => rfl
          | ok first middle =>
              have kept := tracks.remaining_le_of_ok run
              dsimp only
              rw [EStateM.run_bind, EStateM.run_bind, run_peek]
              dsimp only
              cases front : middle.cursor.peek with
              | none => rfl
              | some separator =>
                  have shorter := remaining_next_lt front
                  rw [← advanced_cursor] at shorter
                  dsimp only
                  by_cases separates : separator = ";"
                  · rw [if_pos separates, if_pos separates, EStateM.run_bind, EStateM.run_bind,
                      run_advance]
                    dsimp only
                    rw [EStateM.run_bind, EStateM.run_bind,
                      agree () middle.advanced (Nat.lt_of_lt_of_le shorter kept)]
                  · rw [if_neg separates, if_neg separates]

theorem statementsOver_unfold (tracks : Local rule) :
    statementsOver rule = statementsRound rule (fun _ => statementsOver rule) () :=
  (statements_isLoop tracks).unfold ()

theorem statementsOver_tracks (tracks : Tracks strict rule rule') (first : Local rule)
    (second : Local rule') : Tracks strict (statementsOver rule) (statementsOver rule') := by
  refine (statements_isLoop first).tracks (statements_isLoop second)
    (fun _ => unterminated_tracks .closeBlock) ?_ ()
  intro further further' ih _
  refine peek_tracks.bind fun front => ?_
  cases front with
  | none => exact unterminated_tracks .closeBlock
  | some token =>
      refine .ite (.pure []) (tracks.bind fun first => peek_tracks.bind fun separator => ?_)
      cases separator with
      | none => exact unterminated_tracks .separator
      | some separator =>
          exact .ite (advance_tracks.bind fun _ => (ih ()).bind fun others => .pure _)
            (refuse_tracks .missingSeparator .separator)

end Bodies

/-- What a statement is whose first token is given. -/
def statementOf (settings : Settings) (levels : Nat) (first : Token) : RuleM Tree :=
  if first = Keyword.ifWord.text then
    conditionalOver settings levels (block settings levels)
  else if first = Keyword.whileWord.text then
    loopOver settings levels (block settings levels)
  else if first = "\x7b" then do
    return .block (← block settings levels)
  else if first = settings.keyword then
    declaration settings
  else
    assignment settings levels

/-- The place of a statement is recorded before it is read. -/
def dispatch (first : Token) : RuleM Unit := do
  record (.dispatched (← position) first)

theorem dispatch_decides (first : Token) : Decides (dispatch first) fun _ => .leave () :=
  fun _ => .leave rfl

/-- A statement is told by its first token. -/
theorem statement_succ (settings : Settings) (levels : Nat) :
    statement settings (levels + 1) = (do
      match ← peek with
      | none => refuse .unexpectedToken .statement
      | some first =>
          dispatch first
          statementOf settings levels first) := by
  rw [statement]
  rfl

/-- Consumes a brace, without which the block is not delimited. -/
def brace (lexeme : Token) (expectation : Expectation) : RuleM Unit := do
  unless ← accept lexeme do
    unterminated expectation

theorem brace_decides (lexeme : Token) (expectation : Expectation) :
    Decides (brace lexeme expectation) fun front =>
      if front = some lexeme then .take ()
      else .stop .unterminatedBlock (.expected expectation) := by
  intro start
  rw [brace, EStateM.run_bind, run_accept]
  by_cases front : start.cursor.peek = some lexeme
  · simpa [front] using .take rfl
  · simpa [front] using .stop rfl

/-- A block is two braces with statements between them. -/
theorem block_succ (settings : Settings) (levels : Nat) :
    block settings (levels + 1) = (do
      brace "\x7b" .openBlock
      let statements ← statementsOver (statement settings levels)
      brace "\x7d" .closeBlock
      return statements) := by
  have join {α : Type} (lexeme : Token) (expectation : Expectation) (next : Unit → RuleM α) :
      brace lexeme expectation >>= next = accept lexeme >>= fun accepted =>
        if accepted = true then next () else unterminated expectation >>= next := by
    rw [brace, bind_assoc]
    congr 1
    funext accepted
    cases accepted <;> simp
  rw [block]
  simp only [join]

theorem brace_tracks (lexeme : Token) (expectation : Expectation) :
    Tracks strict (brace lexeme expectation) (brace lexeme expectation) :=
  (brace_decides lexeme expectation).tracks_self

theorem block_tracks_succ
    (tracks : Tracks strict (statement settings levels) (statement settings' levels'))
    (first : Local (statement settings levels)) (second : Local (statement settings' levels')) :
    Tracks strict (block settings (levels + 1)) (block settings' (levels' + 1)) := by
  rw [block_succ, block_succ]
  exact (brace_tracks "\x7b" .openBlock).bind fun _ =>
    (statementsOver_tracks tracks first second).bind fun _ =>
      (brace_tracks "\x7d" .closeBlock).bind fun _ => .pure _

theorem statement_tracks_succ (widens : Widens strict settings levels settings' levels')
    (tracks : Tracks strict (block settings levels) (block settings' levels')) :
    Tracks strict (statement settings (levels + 1)) (statement settings' (levels' + 1)) := by
  rw [statement_succ, statement_succ]
  refine peek_tracks.bind fun front => ?_
  cases front with
  | none => exact refuse_tracks .unexpectedToken .statement
  | some first =>
      refine (dispatch_decides first).tracks_self.bind fun _ => ?_
      rw [statementOf, statementOf, widens.keyword]
      exact .ite (conditionalOver_tracks widens tracks) <|
        .ite (loopOver_tracks widens tracks) <|
          .ite (tracks.bind fun _ => .pure _) <|
            .ite (declaration_tracks widens.keyword) (assignment_tracks widens)

theorem statement_block_local (settings : Settings) (levels : Nat) :
    Local (statement settings levels) ∧ Local (block settings levels) := by
  induction levels with
  | zero =>
      rw [statement, block]
      exact ⟨tooDeep_tracks fun _ => rfl, tooDeep_tracks fun _ => rfl⟩
  | succ levels ih =>
      exact ⟨statement_tracks_succ (.refl settings levels) ih.2,
        block_tracks_succ ih.1 ih.1 ih.1⟩

/-- Statements and blocks track each other when the limits do not shrink. -/
theorem statement_block_tracks (widens : Widens strict settings levels settings' levels') :
    Tracks strict (statement settings levels) (statement settings' levels') ∧
      Tracks strict (block settings levels) (block settings' levels') := by
  induction levels generalizing levels' with
  | zero =>
      rw [statement, block]
      refine ⟨tooDeep_tracks fun truth => ?_, tooDeep_tracks fun truth => ?_⟩
      · obtain ⟨rfl, rfl⟩ := widens.eq truth
        rw [statement]
      · obtain ⟨rfl, rfl⟩ := widens.eq truth
        rw [block]
  | succ levels ih =>
      obtain ⟨more, rfl⟩ := widens.exists_succ
      obtain ⟨statements, blocks⟩ := ih widens.pred
      exact ⟨statement_tracks_succ widens.pred blocks,
        block_tracks_succ statements (statement_block_local settings levels).1
          (statement_block_local settings' more).1⟩

/-! ## Programs -/

theorem requireEnd_tracks (expectation : Expectation) :
    Tracks strict (requireEnd expectation) (requireEnd expectation) :=
  (requireEnd_decides expectation).tracks_self

/-- The number of tokens is recorded before a program is read. -/
def beginning : RuleM Unit := do
  record (.begun (← remaining))

theorem beginning_decides : Decides beginning fun _ => .leave () :=
  fun _ => .leave rfl

/-- A program is a block and nothing behind it. -/
theorem program_eq (settings : Settings) (levels : Nat) :
    program settings levels = (do
      beginning
      let statements ← block settings levels
      requireEnd .programEnd
      return .block statements) := by
  simp only [program, beginning, bind_assoc]

theorem program_tracks (widens : Widens strict settings levels settings' levels') :
    Tracks strict (program settings levels) (program settings' levels') := by
  rw [program_eq, program_eq]
  exact beginning_decides.tracks_self.bind fun _ =>
    (statement_block_tracks widens).2.bind fun statements =>
      (requireEnd_tracks .programEnd).bind fun _ => .pure (Tree.block statements)

/-! ## Calls -/

theorem standalone_tracks (widens : Widens strict settings levels settings' levels') :
    Tracks strict (standalone settings levels) (standalone settings' levels') :=
  (statement_block_tracks widens).1.bind fun _ => (accept_tracks ";").bind fun _ =>
    (requireEnd_tracks .statementEnd).bind fun _ => .pure _

/-- Every call tracks itself under wider limits. -/
theorem Call.rule_tracks (call : Call)
    (widens : Widens strict settings levels settings' levels') :
    Tracks strict (call.rule settings levels) (call.rule settings' levels') := by
  have groups := arithmeticGroup_tracks widens
  have first := arithmeticGroup_local settings levels
  have second := arithmeticGroup_local settings' levels'
  have atoms := atom_tracks widens (conditionGroup_tracks widens)
  obtain ⟨statements, blocks⟩ := statement_block_tracks widens
  cases call with
  | program => exact program_tracks widens
  | standalone => exact standalone_tracks widens
  | statement => exact statements
  | statements =>
      exact statementsOver_tracks statements (statement_block_local settings levels).1
        (statement_block_local settings' levels').1
  | block => exact blocks
  | conditional => exact conditionalOver_tracks widens blocks
  | loop => exact loopOver_tracks widens blocks
  | declaration => exact declaration_tracks widens.keyword
  | assignment => exact assignment_tracks widens
  | head word => exact headCondition_tracks widens word
  | expression => exact expression_tracks widens
  | term => exact termOver_tracks widens.keyword groups first second
  | factor => exact factorOver_tracks widens.keyword groups
  | condition => exact condition_tracks widens
  | conjunction =>
      exact chain_tracks atoms (atom_local settings levels) (atom_local settings' levels')
  | atom => exact atoms
  | group => exact conditionGroup_tracks widens
  | comparison => exact comparison_tracks widens

/-- The parts of conditions that are no rules by themselves. -/
inductive ConditionPart where
  | head (word : Keyword)
  | conjunction
  | atom
  | group
  | comparison
  deriving DecidableEq, Repr

/-- The rule that reads a part of a condition. -/
def ConditionPart.rule (settings : Settings) (levels : Nat) : ConditionPart → RuleM Tree
  | .head word => headCondition settings levels word
  | .conjunction => conjunctionOver settings levels (conditionGroup settings levels)
  | .atom => Grammar.atom settings levels
  | .group => conditionGroup settings levels
  | .comparison => Grammar.comparison settings levels

theorem ConditionPart.rule_tracks (part : ConditionPart)
    (widens : Widens strict settings levels settings' levels') :
    Tracks strict (part.rule settings levels) (part.rule settings' levels') := by
  cases part with
  | head word => exact Call.rule_tracks (.head word) widens
  | conjunction => exact Call.rule_tracks .conjunction widens
  | atom => exact Call.rule_tracks .atom widens
  | group => exact Call.rule_tracks .group widens
  | comparison => exact Call.rule_tracks .comparison widens

end Grammar

open Grammar in
/-- Every rule tracks itself under wider limits. -/
theorem Rule.run_tracks {strict : Prop} {settings settings' : Settings}
    (widens : Widens strict settings settings.maxDepth settings' settings'.maxDepth)
    (rule : Rule) : Tracks strict (rule.run settings) (rule.run settings') := by
  rw [rule.run_eq, rule.run_eq]
  exact (rule.call.rule_tracks widens).map rule.parsed

end BlockLang
