import BlockLang.Proofs.Concatenation
import BlockLang.Proofs.Lacking
import BlockLang.Proofs.Nesting

/-!
# Programs that are cut off

No beginning of a program is a program, nor does a program go on behind its last brace. A beginning
is refused at its end, where a token is lacking: an error on an earlier token would be an error of
the program too, and so would levels that nest too deep at the end, since a block is the only rule
that nests too deep there and it does so before it looks at a token.
-/

namespace BlockLang

namespace Grammar

variable {α β : Type} {settings : Settings} {levels : Nat} {rule : RuleM α} {rest : α → RuleM β}
  {start : State}

/-! ## Rules that may nest too deep at the end -/

/-- A rule nests too deep behind all tokens that remain, and it would whatever followed them. -/
def DeepAtEnd (settings : Settings) (rule : RuleM α) (start : State) : Prop :=
  Overruns settings rule start.cursor.rest start.cursor.remaining

/-- Where a rule fails at the end of the input, a token is lacking there or too many levels nest. -/
def CutOff (settings : Settings) (rule : RuleM α) (start : State) : Prop :=
  Raises rule start fun error =>
    error.found = none → error.Incomplete ∨ DeepAtEnd settings rule start

theorem DeepAtEnd.behind {ends : Option Token → Prop} {tokens : List Token} {value : α}
    {middle : State} (handles : Handles rule ends tokens value)
    (reads : start.cursor.Reads tokens middle.cursor)
    (ended : ∀ remainder, ends (middle.cursor.rest ++ remainder).head?)
    (deep : DeepAtEnd settings (rest value) middle) : DeepAtEnd settings (rule >>= rest) start := by
  have whole := handles.overruns ended deep
  rw [← reads.rest, ← Cursor.length_rest, ← List.length_append, ← reads.rest,
    Cursor.length_rest] at whole
  exact whole

namespace CutOff

theorem of_lacks (lacks : Lacks rule start) : CutOff settings rule start :=
  fun error finish run missing => .inl (lacks error finish run missing)

/-- A sequence whose second step never nests too deep. -/
theorem head (head : CutOff settings rule start)
    (lacks : ∀ value middle, Lacks (rest value) middle) :
    CutOff settings (rule >>= rest) start := by
  intro error finish run missing
  rcases run_bind_error run with failed | ⟨value, middle, passed, failed⟩
  · exact (head error finish failed missing).imp_right fun deep => Overruns.head deep rest
  · exact .inl (lacks value middle error finish failed missing)

/-- A sequence that looks at the front token. -/
theorem peek {rest : Option Token → RuleM α} {token : Token}
    (front : start.cursor.peek = some token) (next : CutOff settings (rest (some token)) start) :
    CutOff settings (Grammar.peek >>= rest) start := by
  intro error finish run missing
  rw [EStateM.run_bind, run_peek, front] at run
  refine (next error finish run missing).imp_right fun deep => ?_
  rw [DeepAtEnd, Cursor.rest_eq_cons front] at deep ⊢
  exact Overruns.peek deep

/-- A sequence whose second step lacks a token if the first leaves none. So the first step ends
before a token wherever the second nests too deep. -/
theorem bind (tracks : Local rule) (head : CutOff settings rule start)
    (tail : ∀ value middle, rule.run start = .ok value middle →
      CutOff settings (rest value) middle)
    (ended : ∀ value (middle : State), middle.cursor.peek = none → Lacks (rest value) middle) :
    CutOff settings (rule >>= rest) start := by
  intro error finish run missing
  rcases run_bind_error run with failed | ⟨value, middle, passed, failed⟩
  · exact (head error finish failed missing).imp_right fun deep => Overruns.head deep rest
  · cases front : middle.cursor.peek with
    | none => exact .inl (ended value middle front error finish failed missing)
    | some token =>
        obtain ⟨tokens, reads⟩ := tracks.reads passed
        refine (tail value middle passed error finish failed missing).imp_right fun deep => ?_
        refine deep.behind (tracks.handles passed reads) reads fun remainder => ?_
        rw [Cursor.rest_eq_cons front, front]
        rfl

/-- A sequence whose first step takes the front token. -/
theorem take {step : Option Token → Step α} (decides : Decides rule step) {token : Token}
    {value : α} (front : start.cursor.peek = some token)
    (decision : step (some token) = .take value)
    (tail : ∀ middle : State, middle.cursor = start.cursor.next →
      CutOff settings (rest value) middle) :
    CutOff settings (rule >>= rest) start := by
  intro error finish run missing
  obtain ⟨middle, passed, moved⟩ := decides.run_of_take (front ▸ decision)
  rw [run_bind_of_ok passed] at run
  refine (tail middle moved error finish run missing).imp_right fun deep => ?_
  exact deep.behind (.take decides decision) (moved ▸ Cursor.reads_next front) fun _ => trivial

/-- A sequence whose first step reads nothing. -/
theorem skip {value : α} (decides : Decides rule fun _ => .leave value)
    (tail : ∀ middle : State, middle.cursor = start.cursor → CutOff settings (rest value) middle) :
    CutOff settings (rule >>= rest) start := by
  intro error finish run missing
  obtain ⟨middle, passed, same⟩ : ∃ middle, rule.run start = .ok value middle ∧
      middle.cursor = start.cursor := decides.run_of_leave rfl
  rw [run_bind_of_ok passed] at run
  refine (tail middle same error finish run missing).imp_right fun deep => ?_
  have handles : Handles rule (fun _ => True) [] value := fun _ _ _ _ => .of_leave decides rfl
  exact deep.behind handles (same ▸ .refl _) fun _ => trivial

/-- A sequence whose first step requires a token. -/
theorem required {rule : RuleM Unit} {rest : Unit → RuleM β} {lexeme : Token}
    {kind : Option Token → ErrorKind} {cause : ErrorCause}
    (decides : Requires rule lexeme kind cause) (lacks : Lacks rule start)
    (tail : ∀ middle : State, CutOff settings (rest ()) middle) :
    CutOff settings (rule >>= rest) start := by
  by_cases front : start.cursor.peek = some lexeme
  · exact .take decides front (if_pos rfl) fun middle _ => tail middle
  · exact .of_lacks (.before decides lacks front)

theorem require {rest : Unit → RuleM β} (lexeme : Token) (expectation : Expectation)
    (tail : ∀ middle : State, CutOff settings (rest ()) middle) :
    CutOff settings (Grammar.require lexeme expectation >>= rest) start :=
  required (require_decides lexeme expectation) (.require lexeme expectation) tail

end CutOff

theorem tooDeep_cutOff (settings : Settings) (start : State) :
    CutOff settings (tooDeep settings : RuleM α) start := by
  intro error finish run missing
  cases run
  have front : start.cursor.peek = none := missing
  refine .inr ?_
  rw [DeepAtEnd, ← Cursor.length_rest, Cursor.rest_eq_nil front]
  exact overruns_tooDeep []

/-! ## Statements -/

/-- A block looks at the next token before each statement and behind it, so it nests too deep at the
end only within a statement or farther on. -/
theorem statementsRound_cutOff {rule : RuleM Tree} (tracks : Local rule)
    (one : ∀ start, CutOff settings rule start) {further : Unit → RuleM (List Tree)}
    (others : ∀ later : State, later.cursor.remaining < start.cursor.remaining →
      CutOff settings (further ()) later) :
    CutOff settings (statementsRound rule further ()) start := by
  cases front : start.cursor.peek with
  | none => exact .of_lacks (.peek front (Lacks.unterminated .closeBlock))
  | some token =>
      refine .peek front ?_
      dsimp only
      split
      next => exact .of_lacks (.pure [])
      next =>
          refine .bind tracks (one start) (fun first middle passed => ?_) fun _ middle ended =>
            .peek ended (Lacks.unterminated .separator)
          cases separator : middle.cursor.peek with
          | none => exact .of_lacks (.peek separator (Lacks.unterminated .separator))
          | some token' =>
              refine .peek separator ?_
              dsimp only
              split
              next =>
                  refine .take advance_decides separator rfl fun later moved => ?_
                  have kept := tracks.remaining_le_of_ok passed
                  have shorter := remaining_next_lt separator
                  rw [← moved] at shorter
                  exact .head (others later (by omega)) fun _ _ => .pure _
              next => exact .of_lacks (.refuse .missingSeparator .separator)

theorem statementsOver_cutOff {rule : RuleM Tree} (tracks : Local rule)
    (one : ∀ start, CutOff settings rule start) (start : State) :
    CutOff settings (statementsOver rule) start := by
  induction start using fewer_tokens with
  | step start ih =>
      rw [statementsOver_unfold tracks]
      exact statementsRound_cutOff tracks one ih

/-- Behind a condition in parentheses nothing has to be looked at before what follows. -/
theorem headCondition_cutOff (word : Keyword) {rest : Tree → RuleM Tree}
    (tail : ∀ test middle, CutOff settings (rest test) middle) (start : State) :
    CutOff settings (headCondition settings levels word >>= rest) start := by
  simp only [headCondition, bind_assoc, pure_bind]
  refine .require word.text _ fun _ => .require "(" _ fun middle => ?_
  refine .bind (condition_tracks (.refl settings levels))
    (.of_lacks (lacks_condition settings levels middle))
    (fun test _ _ => .require ")" _ fun later => tail test later) fun test later ended => ?_
  exact .before (require_decides ")" _) (.require ")" _) (by rw [ended]; nofun)

theorem conditional_cutOff {block : RuleM (List Tree)} (tracks : Local block)
    (blocks : ∀ start, CutOff settings block start) (start : State) :
    CutOff settings (conditionalOver settings levels block) start := by
  refine headCondition_cutOff .ifWord (fun test middle => ?_) start
  -- Without an `else` nothing follows the block, and so nothing nests too deep.
  have alone (body : List Tree) (later : State)
      (other : later.cursor.peek ≠ some Keyword.elseWord.text) :
      Lacks (do
        if ← accept Keyword.elseWord.text then
          return Tree.ifThenElse test body (← block)
        else
          return Tree.ifThen test body) later := by
    intro error finish run
    rw [EStateM.run_bind, run_accept, if_neg (by simpa using other)] at run
    cases run
  refine .bind tracks (blocks middle) (fun body later _ => ?_) fun body later ended => ?_
  · by_cases front : later.cursor.peek = some Keyword.elseWord.text
    · refine .take (accept_decides _) front (if_pos rfl) fun last _ => ?_
      exact .head (blocks last) fun _ _ => .pure _
    · exact .of_lacks (alone body later front)
  · exact alone body later (by rw [ended]; nofun)

theorem loop_cutOff {block : RuleM (List Tree)}
    (blocks : ∀ start, CutOff settings block start) (start : State) :
    CutOff settings (loopOver settings levels block) start :=
  headCondition_cutOff .whileWord
    (fun _ middle => .head (blocks middle) fun _ _ => .pure _) start

theorem block_cutOff_succ (statements : ∀ start, CutOff settings (statement settings levels) start)
    (start : State) : CutOff settings (block settings (levels + 1)) start := by
  rw [block_succ]
  refine .required (brace_decides _ _) (.brace _ _) fun middle => ?_
  have tracks := (statement_block_local settings levels).1
  exact .head (statementsOver_cutOff tracks statements middle) fun _ _ =>
    .bind (Lacks.brace _ _) fun _ _ _ => .pure _

theorem statement_cutOff_succ (blocks : ∀ start, CutOff settings (block settings levels) start)
    (start : State) : CutOff settings (statement settings (levels + 1)) start := by
  rw [statement_succ]
  cases front : start.cursor.peek with
  | none => exact .of_lacks (.peek front (Lacks.refuse .unexpectedToken .statement))
  | some first =>
      refine .peek front (.skip (dispatch_decides first) fun middle _ => ?_)
      rw [statementOf]
      split
      next => exact conditional_cutOff (statement_block_local settings levels).2 blocks middle
      next =>
      split
      next => exact loop_cutOff blocks middle
      next =>
      split
      next => exact .head (blocks middle) fun _ _ => .pure _
      next =>
      split
      next => exact .of_lacks (lacks_declaration settings middle)
      next => exact .of_lacks (lacks_assignment settings levels middle)

theorem statement_block_cutOff (settings : Settings) (levels : Nat) :
    (∀ start, CutOff settings (statement settings levels) start) ∧
      ∀ start, CutOff settings (block settings levels) start := by
  induction levels with
  | zero =>
      rw [statement, block]
      exact ⟨tooDeep_cutOff settings, tooDeep_cutOff settings⟩
  | succ levels ih => exact ⟨statement_cutOff_succ ih.2, block_cutOff_succ ih.1⟩

theorem program_cutOff (settings : Settings) (levels : Nat) (start : State) :
    CutOff settings (program settings levels) start := by
  rw [program_eq]
  refine .skip beginning_decides fun middle _ => ?_
  exact .head ((statement_block_cutOff settings levels).2 middle) fun statements _ =>
    .bind (Lacks.requireEnd .programEnd) fun _ _ _ => .pure (Tree.block statements)

/-! ## Programs -/

/-- Behind its last brace a program is refused at the next token. -/
theorem programRest_refused {token : Token} {more : List Token}
    (behind : start.cursor.rest = "\x7d" :: token :: more) :
    ∃ finish, (programRest settings levels).run start =
      .error ⟨.unexpectedToken, .expected .programEnd, start.cursor.position + 1, some token⟩
        finish := by
  have front : start.cursor.peek = some "\x7d" := by
    rw [← Cursor.head?_rest, behind]
    rfl
  have listed := run_statementsOver_of_close (statement_block_local settings levels).1 front
  obtain ⟨middle, closed, moved⟩ := run_brace_of_front .closeBlock front
  have next : middle.cursor.peek = some token := by
    rw [← Cursor.head?_rest, moved, Cursor.rest_next, behind]
    rfl
  have position : middle.cursor.position = start.cursor.position + 1 := by
    rw [moved, (Cursor.reads_next front).position_eq]
    rfl
  have present : middle.cursor.peek ≠ none := by
    rw [next]
    nofun
  obtain ⟨finish, refused, -⟩ := (requireEnd_decides .programEnd).run_of_stop (if_neg present)
  rw [errorAt, next, position] at refused
  refine ⟨finish, ?_⟩
  rw [programRest, run_bind_of_ok listed, programEnd, run_bind_of_ok closed]
  exact run_bind_of_error refused

end Grammar

open Grammar

variable {settings : Settings} {tokens : List Token} {tree : Tree}

/-- Tokens behind a program are refused at the first of them. -/
theorem parseProgram_extended (accepted : parseProgram settings tokens = .ok tree) (token : Token)
    (rest : List Token) :
    parseProgram settings (tokens ++ token :: rest) =
      .error ⟨.unexpectedToken, .expected .programEnd, tokens.length, some token⟩ := by
  obtain ⟨levels, inner, statements, more, rfl, rfl, -⟩ := exists_programRest accepted
  obtain ⟨inside, behind, position, alone⟩ :=
    parseProgram_eq_programRest more ("\x7d" :: token :: rest)
  obtain ⟨finish, refused⟩ : ∃ finish, (programRest settings levels).run inside = _ :=
    programRest_refused behind
  rw [outcome_of_error refused, position] at alone
  have whole := parseProgram_append accepted ("\x7d" :: token :: rest)
  rw [alone] at whole
  have length : ("\x7b" :: inner ++ ["\x7d"]).length = inner.length + 2 := by simp
  rw [List.append_assoc, List.singleton_append, whole, length]
  rfl

/-- A beginning of a program is refused at its end, where a token is lacking. -/
theorem parseProgram_truncated (accepted : parseProgram settings tokens = .ok tree)
    {shorter : List Token} (part : shorter <+: tokens) (strict : shorter ≠ tokens) :
    ∃ error, parseProgram settings shorter = .error error ∧ error.found = none ∧
      error.position = shorter.length ∧ error.Incomplete := by
  obtain ⟨more, rfl⟩ := part
  cases outcome : parseProgram settings shorter with
  | ok tree' =>
      -- Then the program would go on behind its last brace.
      cases more with
      | nil => exact absurd (List.append_nil shorter).symm strict
      | cons token rest =>
          rw [parseProgram_extended outcome] at accepted
          cases accepted
  | error error =>
      obtain ⟨finish, run⟩ := parseProgram_eq_error_iff.mp outcome
      obtain ⟨finish', run'⟩ := parseProgram_eq_ok_iff.mp accepted
      have tracks := program_tracks (.refl settings settings.maxDepth)
      obtain ⟨read, seen, reads, -, lies⟩ := tracks.lies run
      obtain ⟨rest, split, head⟩ := lies.found
      rw [rest_opening] at split
      cases found : error.found with
      | some token =>
          -- Then the program would be refused at the same token.
          have agree : (opening settings (shorter ++ more)).cursor.Continues seen error.found := by
            refine ⟨rest ++ more, by rw [rest_opening, split, List.append_assoc], ?_⟩
            rw [List.head?_append, head, found]
            rfl
          obtain ⟨last, refused, -⟩ := tracks.follow_error run reads lies agree fun _ => trivial
          rw [run'] at refused
          cases refused
      | none =>
          rw [found, List.head?_eq_none_iff] at head
          rw [head, List.append_nil] at split
          refine ⟨error, rfl, found, ?_, ?_⟩
          · rw [lies.position_eq, position_opening, Nat.zero_add, split]
          · rcases program_cutOff settings settings.maxDepth _ error finish run found with
              incomplete | deep
            · exact incomplete
            · -- Then the program would nest too deep as well.
              rw [DeepAtEnd, rest_opening] at deep
              obtain ⟨place, last, refused, -⟩ := deep (opening settings (shorter ++ more)) _
                ⟨more, rest_opening _ _, rfl⟩
              rw [run'] at refused
              cases refused

/-- No beginning of a program and nothing that goes on behind one is a program. A beginning is
refused at its end, where a token is lacking, and what goes on is refused at the token behind the
program. -/
theorem parseProgram_prefix_free (accepted : parseProgram settings tokens = .ok tree) :
    (∀ shorter, shorter <+: tokens → shorter ≠ tokens →
      ∃ error, parseProgram settings shorter = .error error ∧ error.found = none ∧
        error.position = shorter.length ∧
        (error.kind = .endOfInput ∨ error.kind = .unterminatedBlock)) ∧
    ∀ token rest, parseProgram settings (tokens ++ token :: rest) =
      .error ⟨.unexpectedToken, .expected .programEnd, tokens.length, some token⟩ :=
  ⟨fun _ part strict => parseProgram_truncated accepted part strict,
    fun token rest => parseProgram_extended accepted token rest⟩

/-- The program takes all three levels. Where it is cut off behind the relation, the group has been
refused at a token before, and the error of the comparison lies at the cut. -/
theorem parseProgram_prefix_free_group :
    (∃ error, parseProgram ⟨"let", 3⟩ ["\x7b", "if", "(", "(", "a", ")", "<"] = .error error ∧
      error.found = none ∧ error.position = 7 ∧
      (error.kind = .endOfInput ∨ error.kind = .unterminatedBlock)) ∧
    parseProgram ⟨"let", 3⟩
        ["\x7b", "if", "(", "(", "a", ")", "<", "1", ")", "\x7b", "\x7d", ";", "\x7d", ";", "x"] =
      .error ⟨.unexpectedToken, .expected .programEnd, 13, some ";"⟩ := by
  have accepted : parseProgram ⟨"let", 3⟩
      ["\x7b", "if", "(", "(", "a", ")", "<", "1", ")", "\x7b", "\x7d", ";", "\x7d"] =
      .ok (.block [.ifThen (.binary .less (.var "a") (.int 1)) []]) := rfl
  obtain ⟨cut, extended⟩ := parseProgram_prefix_free accepted
  exact ⟨cut _ ⟨["1", ")", "\x7b", "\x7d", ";", "\x7d"], rfl⟩ (by decide), extended ";" ["x"]⟩

end BlockLang
