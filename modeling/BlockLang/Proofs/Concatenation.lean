import BlockLang.Proofs.History
import BlockLang.Proofs.Program

/-!
# Lists of statements compose

Behind some statements, each with its separator, a block goes on as it does behind its brace. What
the statements are does not depend on the tokens that follow them, and the rest of the block depends
neither on the statements nor on where it begins. So a program whose block begins with them is read
as the program without them is, or is refused for the same reason farther on.
-/

namespace BlockLang

/-- Puts statements before those of a block. -/
def Tree.prepend (statements : List Tree) : Tree → Tree
  | .block others => .block (statements ++ others)
  | tree => tree

namespace Grammar

variable {settings : Settings} {levels : Nat} {rule : RuleM Tree} {start start' finish : State}
  {body : List Tree}

/-! ## Lists -/

/-- How a list of statements is read: the brace comes that closes it, or a statement with its
separator before the others. -/
inductive ListReading (rule : RuleM Tree) (start : State) : List Tree → State → Prop where
  | closed (front : start.cursor.peek = some "\x7d") : ListReading rule start [] start
  | separated {token : Token} {first : Tree} {others : List Tree} {middle finish : State}
      (front : start.cursor.peek = some token) (other : token ≠ "\x7d")
      (one : rule.run start = .ok first middle) (separator : middle.cursor.peek = some ";")
      (further : (statementsOver rule).run middle.advanced = .ok others finish) :
      ListReading rule start (first :: others) finish

/-- A list ends at once before the brace that closes it. -/
theorem run_statementsOver_of_close (tracks : Local rule)
    (front : start.cursor.peek = some "\x7d") :
    (statementsOver rule).run start = .ok [] start := by
  rw [statementsOver_unfold tracks, statementsRound, EStateM.run_bind, run_peek, front]
  rfl

/-- A list goes on behind a statement with its separator. -/
theorem run_statementsOver_of_separated (tracks : Local rule) {token : Token} {first : Tree}
    {middle : State} (front : start.cursor.peek = some token) (other : token ≠ "\x7d")
    (one : rule.run start = .ok first middle) (separator : middle.cursor.peek = some ";") :
    (statementsOver rule).run start =
      (List.cons first <$> statementsOver rule).run middle.advanced := by
  have unfolded : (statementsOver rule).run start =
      (statementsRound rule (fun _ => statementsOver rule) ()).run start :=
    congrArg (EStateM.run · start) (statementsOver_unfold tracks)
  rw [unfolded, statementsRound, EStateM.run_bind, run_peek, front]
  dsimp only
  rw [if_neg other, run_bind_of_ok one, EStateM.run_bind, run_peek, separator]
  dsimp only
  rw [if_pos rfl, EStateM.run_bind, run_advance, map_eq_pure_bind]

/-- There is no other way to read a list. -/
theorem listReading_of_run (tracks : Local rule)
    (run : (statementsOver rule).run start = .ok body finish) :
    ListReading rule start body finish := by
  have unfolded := run
  rw [statementsOver_unfold tracks, statementsRound, EStateM.run_bind, run_peek] at unfolded
  cases front : start.cursor.peek with
  | none =>
      rw [front] at unfolded
      cases unfolded
  | some token =>
      rw [front] at unfolded
      dsimp only at unfolded
      by_cases closes : token = "\x7d"
      · rw [if_pos closes] at unfolded
        cases unfolded
        exact .closed (closes ▸ front)
      · rw [if_neg closes] at unfolded
        obtain ⟨first, middle, one, rest⟩ := run_bind_ok unfolded
        rw [EStateM.run_bind, run_peek] at rest
        cases separator : middle.cursor.peek with
        | none =>
            rw [separator] at rest
            cases rest
        | some token' =>
            rw [separator] at rest
            dsimp only at rest
            by_cases separates : token' = ";"
            · subst separates
              rw [run_statementsOver_of_separated tracks front closes one separator,
                map_eq_pure_bind] at run
              obtain ⟨others, middle', further, last⟩ := run_bind_ok run
              cases last
              exact .separated front closes one separator further
            · rw [if_neg separates] at rest
              cases rest

/-- A list that has been read is read again before any other tokens, and goes on there with what
they are. -/
theorem run_statementsOver_append (tracks : Local rule)
    (run : (statementsOver rule).run start = .ok body finish) {tokens rest : List Token}
    (reads : start.cursor.Reads tokens finish.cursor)
    (split : start'.cursor.rest = tokens ++ rest) :
    ∃ middle', start'.cursor.Reads tokens middle'.cursor ∧
      (statementsOver rule).run start' =
        ((body ++ ·) <$> statementsOver rule).run middle' := by
  induction body generalizing start start' tokens with
  | nil =>
      cases listReading_of_run tracks run with
      | closed front =>
          obtain rfl : tokens = [] := reads.tokens_eq (.refl _)
          refine ⟨start', .refl _, ?_⟩
          change _ = (id <$> statementsOver rule).run start'
          rw [id_map]
  | cons first others ih =>
      cases listReading_of_run tracks run with
      | @separated token _ _ middle _ front other one separator further =>
          obtain ⟨read, readsOne⟩ := tracks.reads one
          have readsSeparator : middle.cursor.Reads [";"] middle.advanced.cursor := by
            rw [advanced_cursor]
            exact Cursor.reads_next separator
          obtain ⟨read', readsOthers⟩ := (statementsOver_tracks tracks tracks tracks).reads further
          obtain rfl : tokens = read ++ ([";"] ++ read') :=
            reads.tokens_eq (readsOne.trans (readsSeparator.trans readsOthers))
          have agree : start'.cursor.Continues read middle.cursor.peek := by
            refine ⟨[";"] ++ read' ++ rest, ?_, ?_⟩
            · rw [split, List.append_assoc, List.append_assoc]
            · rw [separator]
              rfl
          obtain ⟨middle', one', readsOne'⟩ := tracks.follow_ok one readsOne agree
          have front' := (readsOne.continues.peek_eq agree).trans front
          have separator' := (agree.peek_of_reads readsOne').trans separator
          have readsSeparator' : middle'.cursor.Reads [";"] middle'.advanced.cursor := by
            rw [advanced_cursor]
            exact Cursor.reads_next separator'
          have behind : middle'.advanced.cursor.rest = read' ++ rest := by
            have whole := (readsOne'.trans readsSeparator').rest
            rw [split] at whole
            simp only [List.append_assoc] at whole
            exact (List.append_cancel_left (List.append_cancel_left whole)).symm
          obtain ⟨last', readsOthers', further'⟩ := ih further readsOthers behind
          refine ⟨last', readsOne'.trans (readsSeparator'.trans readsOthers'), ?_⟩
          rw [run_statementsOver_of_separated tracks front' other one' separator',
            map_eq_pure_bind, EStateM.run_bind, further', ← EStateM.run_bind, bind_pure_comp,
            ← comp_map]
          rfl

/-! ## Programs -/

/-- What follows the statements of a program. -/
def programEnd (statements : List Tree) : RuleM Tree := do
  brace "\x7d" .closeBlock
  requireEnd .programEnd
  return .block statements

/-- What follows the brace that opens a program. -/
def programRest (settings : Settings) (levels : Nat) : RuleM Tree :=
  statementsOver (statement settings levels) >>= programEnd

theorem programRest_local (settings : Settings) (levels : Nat) :
    Local (programRest settings levels) := by
  have tracks := (statement_block_local settings levels).1
  exact (statementsOver_tracks tracks tracks tracks).bind fun statements =>
    (brace_tracks "\x7d" .closeBlock).bind fun _ => (requireEnd_tracks .programEnd).bind fun _ =>
      .pure (Tree.block statements)

/-- Statements may be put before others when all of them have been read. -/
theorem programEnd_append (statements others : List Tree) :
    programEnd (statements ++ others) = Tree.prepend statements <$> programEnd others := by
  simp only [programEnd, map_bind, map_pure]
  rfl

/-- A brace at the front is consumed. -/
theorem run_brace_of_front {lexeme : Token} (expectation : Expectation)
    (front : start.cursor.peek = some lexeme) :
    ∃ middle, (brace lexeme expectation).run start = .ok () middle ∧
      middle.cursor = start.cursor.next :=
  (brace_decides lexeme expectation).run_of_take (if_pos front)

/-- A program is read up to its end. -/
theorem programRest_ok {tree : Tree}
    (run : (programRest settings levels).run start = .ok tree finish) :
    ∃ statements middle, tree = .block statements ∧
      (statementsOver (statement settings levels)).run start = .ok statements middle ∧
      middle.cursor.rest = ["\x7d"] := by
  obtain ⟨statements, middle, listed, ends⟩ := run_bind_ok run
  obtain ⟨_, last, closed, ends⟩ := run_bind_ok ends
  obtain ⟨_, _, ended, ends⟩ := run_bind_ok ends
  cases ends
  refine ⟨statements, middle, rfl, listed, ?_⟩
  obtain ⟨front, moved⟩ := Requires.peek_of_ok (brace_decides "\x7d" .closeBlock) closed
  obtain ⟨nothing, -⟩ := peek_of_requireEnd ended
  rw [Cursor.rest_eq_cons front, ← moved, Cursor.rest_eq_nil nothing]

/-- Behind statements that make up a program, other tokens are read as they are behind a brace. -/
theorem programRest_append {tokens rest : List Token}
    (run : (programRest settings levels).run start = .ok (.block body) finish)
    (split : start.cursor.rest = tokens ++ ["\x7d"])
    (split' : start'.cursor.rest = tokens ++ rest) :
    ∃ middle', start'.cursor.Reads tokens middle'.cursor ∧
      (programRest settings levels).run start' =
        (Tree.prepend body <$> programRest settings levels).run middle' := by
  have tracks := (statement_block_local settings levels).1
  obtain ⟨statements, middle, same, listed, ends⟩ := programRest_ok run
  cases same
  obtain ⟨tokens', reads⟩ := (statementsOver_tracks tracks tracks tracks).reads listed
  have whole := reads.rest
  rw [split, ends] at whole
  obtain rfl : tokens = tokens' := List.append_cancel_right whole
  obtain ⟨middle', reads', again⟩ := run_statementsOver_append tracks listed reads split'
  refine ⟨middle', reads', ?_⟩
  rw [programRest, EStateM.run_bind, again, ← EStateM.run_bind, map_bind, bind_map_left]
  simp only [programEnd_append]

/-- A program is a brace and what follows it. -/
theorem program_succ (settings : Settings) (levels : Nat) :
    program settings (levels + 1) = (do
      beginning
      brace "\x7b" .openBlock
      programRest settings levels) := by
  simp only [program_eq, block_succ, programRest, bind_assoc, pure_bind]
  rfl

theorem run_program_of_brace (levels : Nat) (front : start.cursor.peek = some "\x7b") :
    ∃ inside : State, inside.cursor = start.cursor.next ∧
      (program settings (levels + 1)).run start = (programRest settings levels).run inside := by
  obtain ⟨first, begun, same⟩ : ∃ first, beginning.run start = .ok () first ∧
      first.cursor = start.cursor := beginning_decides.run_of_leave rfl
  rw [← same] at front ⊢
  obtain ⟨inside, opened, moved⟩ := run_brace_of_front .openBlock front
  refine ⟨inside, moved, ?_⟩
  rw [program_succ, run_bind_of_ok begun, run_bind_of_ok opened]

/-- What is given for the tokens of a program is the outcome of its rule. -/
theorem parseProgram_eq_outcome (settings : Settings) (tokens : List Token) :
    parseProgram settings tokens =
      (outcome (program settings settings.maxDepth) (opening settings tokens)).1 := by
  cases run : (program settings settings.maxDepth).run (opening settings tokens) with
  | ok tree finish =>
      rw [outcome_of_ok run]
      exact parseProgram_eq_ok_iff.mpr ⟨finish, run⟩
  | error error finish =>
      rw [outcome_of_error run]
      exact parseProgram_eq_error_iff.mpr ⟨finish, run⟩

/-- A program that begins with a brace is what follows the brace. -/
theorem parseProgram_eq_programRest (more : settings.maxDepth = levels + 1) (tokens : List Token) :
    ∃ inside : State, inside.cursor.rest = tokens ∧ inside.cursor.position = 1 ∧
      parseProgram settings ("\x7b" :: tokens) =
        (outcome (programRest settings levels) inside).1 := by
  have front : (opening settings ("\x7b" :: tokens)).cursor.peek = some "\x7b" := by
    rw [← Cursor.head?_rest, rest_opening]
    rfl
  obtain ⟨inside, moved, whole⟩ := run_program_of_brace levels front
  refine ⟨inside, ?_, ?_, ?_⟩
  · rw [moved, Cursor.rest_next, rest_opening]
    rfl
  · rw [moved, (Cursor.reads_next front).position_eq]
    rfl
  · rw [parseProgram_eq_outcome, more, outcome, outcome, whole]

theorem outcome_map {α β : Type} (rule : RuleM α) (f : α → β) (start : State) :
    (outcome (f <$> rule) start).1 = (outcome rule start).1.map f := by
  rw [outcome, map_eq_pure_bind, EStateM.run_bind]
  cases run : rule.run start with
  | ok value finish =>
      rw [outcome_of_ok run]
      rfl
  | error error finish =>
      rw [outcome_of_error run]
      rfl

/-- A program that is read has a level, and its tokens stand between braces. -/
theorem exists_programRest {tokens : List Token} {tree : Tree}
    (accepted : parseProgram settings tokens = .ok tree) :
    ∃ levels inner statements, settings.maxDepth = levels + 1 ∧
      tokens = "\x7b" :: inner ++ ["\x7d"] ∧ tree = .block statements ∧
      ∃ inside finish : State, inside.cursor.rest = inner ++ ["\x7d"] ∧
        (programRest settings levels).run inside = .ok tree finish := by
  obtain ⟨derivation, rfl, same, fits⟩ := exists_derivation_of_parseProgram accepted
  obtain ⟨finish, run⟩ := parseProgram_eq_ok_iff.mp accepted
  cases derivation with
  | braces statements =>
      obtain ⟨levels, more⟩ : ∃ levels, settings.maxDepth = levels + 1 := by
        rw [Derivation.depth] at fits
        exact ⟨settings.maxDepth - 1, by omega⟩
      refine ⟨levels, statements.tokens, statements.value, more, rfl, same.symm, ?_⟩
      rw [more] at run
      have front : (opening settings
          (Derivation.braces statements).tokens).cursor.peek = some "\x7b" := by
        rw [← Cursor.head?_rest, rest_opening]
        rfl
      obtain ⟨inside, moved, whole⟩ := run_program_of_brace levels front
      refine ⟨inside, finish, ?_, whole.symm.trans run⟩
      rw [moved, Cursor.rest_next, rest_opening]
      rfl

end Grammar

open Grammar

/-- What a program is with some statements before its own is what it is without them, with them in
front or refused farther on. -/
theorem parseProgram_append {settings : Settings} {tokens : List Token} {body : List Tree}
    (accepted : parseProgram settings ("\x7b" :: tokens ++ ["\x7d"]) = .ok (.block body))
    (rest : List Token) :
    parseProgram settings ("\x7b" :: tokens ++ rest) =
      ((parseProgram settings ("\x7b" :: rest)).map (Tree.prepend body)).mapError
        (·.behind tokens.length) := by
  obtain ⟨levels, inner, statements, more, between, -, inside, finish, split, run⟩ :=
    exists_programRest accepted
  obtain rfl : tokens = inner := List.append_cancel_right (List.cons_inj_right _ |>.mp between)
  obtain ⟨start, split', first, whole⟩ := parseProgram_eq_programRest more (tokens ++ rest)
  obtain ⟨fresh, left, first', alone⟩ := parseProgram_eq_programRest more rest
  obtain ⟨middle, reads, again⟩ := programRest_append run split split'
  have same : middle.cursor.rest = fresh.cursor.rest := by
    have behind := reads.rest
    rw [split'] at behind
    rw [left]
    exact (List.append_cancel_left behind).symm
  have position : middle.cursor.position = tokens.length + fresh.cursor.position := by
    rw [reads.position_eq, first, first', Nat.add_comm]
  obtain ⟨result, -, -⟩ := ((programRest_local settings levels).map
    (Tree.prepend body)).outcome_of_rest_eq same position
  rw [alone, ← outcome_map, ← result, List.cons_append, whole, outcome, outcome, again]

/-- A program is a block. -/
theorem exists_block_of_parseProgram {settings : Settings} {tokens : List Token} {tree : Tree}
    (accepted : parseProgram settings tokens = .ok tree) :
    ∃ statements, tree = .block statements := by
  obtain ⟨derivation, -, same, -⟩ := exists_derivation_of_parseProgram accepted
  exact ⟨derivation.value, same.symm⟩

/-- Where some tokens between braces are a program, they may stand in front of the tokens of any
block: what is behind them is read as it is alone, with their statements in front, or is refused for
the same reason, farther on by their number. -/
theorem statements_compose {settings : Settings} {tokens : List Token} {body : List Tree}
    (accepted : parseProgram settings ("\x7b" :: tokens ++ ["\x7d"]) = .ok (.block body))
    (rest : List Token) :
    (∀ others, parseProgram settings ("\x7b" :: tokens ++ rest) = .ok (.block (body ++ others)) ↔
      parseProgram settings ("\x7b" :: rest) = .ok (.block others)) ∧
    ((∃ others, parseProgram settings ("\x7b" :: rest) = .ok (.block others) ∧
        parseProgram settings ("\x7b" :: tokens ++ rest) = .ok (.block (body ++ others))) ∨
      ∃ error, parseProgram settings ("\x7b" :: rest) = .error error ∧
        parseProgram settings ("\x7b" :: tokens ++ rest) =
          .error (error.moved (error.position + tokens.length))) := by
  have whole := parseProgram_append accepted rest
  cases alone : parseProgram settings ("\x7b" :: rest) with
  | ok tree =>
      obtain ⟨statements, rfl⟩ := exists_block_of_parseProgram alone
      rw [alone] at whole
      change _ = Except.ok (Tree.block (body ++ statements)) at whole
      refine ⟨fun others => ?_, .inl ⟨statements, rfl, whole⟩⟩
      rw [whole]
      simp
  | error error =>
      rw [alone] at whole
      change _ = Except.error (error.moved (tokens.length + error.position)) at whole
      rw [Nat.add_comm] at whole
      refine ⟨fun others => ?_, .inr ⟨error, rfl, whole⟩⟩
      rw [whole]
      simp

/-- Behind one statement the group fails at the relation, two tokens farther on than the
comparison. -/
theorem statements_compose_group :
    parseProgram {} ["\x7b", "x", "=", "1", ";", "if", "(", "(", "a", "<", "b", ";"] =
      .error ⟨.unexpectedToken, .expected .closeGroup, 11, some ";"⟩ := by
  have accepted : parseProgram {} ("\x7b" :: ["x", "=", "1", ";"] ++ ["\x7d"]) =
      .ok (.block [.assign "x" (.int 1)]) := rfl
  have alone : parseProgram {} ("\x7b" :: ["if", "(", "(", "a", "<", "b", ";"]) =
      .error ⟨.unexpectedToken, .expected .closeGroup, 7, some ";"⟩ := rfl
  rcases (statements_compose accepted ["if", "(", "(", "a", "<", "b", ";"]).2 with
    ⟨others, given, -⟩ | ⟨error, given, whole⟩
  · rw [alone] at given
    cases given
  · rw [alone] at given
    cases given
    exact whole

end BlockLang
