import BlockLang.Proofs.Counting
import BlockLang.Proofs.Limits

/-!
# What was called before does not matter

A session keeps a cursor, a record of events and the number of open levels. Whatever rules have been
called in it, and whether they succeeded or failed, no level is open between two calls, and the next
call sees nothing but the tokens that are left: it does there what it does in a new session on those
tokens alone, with every position counted from the first token of all.
-/

namespace BlockLang

/-- The same error behind so many more tokens. -/
def SyntaxError.behind (error : SyntaxError) (count : Nat) : SyntaxError :=
  error.moved (count + error.position)

namespace Grammar

variable {α : Type} {rule : RuleM α} {start start' finish : State}

/-- From stretches of the same tokens that begin alike, equal tokens are left. -/
theorem rest_eq_of_reads {tokens : List Token} (same : start'.cursor.rest = start.cursor.rest)
    {finish' : State} (reads : start.cursor.Reads tokens finish.cursor)
    (reads' : start'.cursor.Reads tokens finish'.cursor) :
    finish'.cursor.rest = finish.cursor.rest := by
  have whole := reads'.rest
  rw [same, reads.rest] at whole
  exact (List.append_cancel_left whole).symm

/-- A local rule does before the same tokens what it does elsewhere, with every position behind as
many more tokens. -/
theorem Tracks.outcome_of_rest_eq (tracks : Local rule)
    (same : start'.cursor.rest = start.cursor.rest) {count : Nat}
    (behind : start'.cursor.position = count + start.cursor.position) :
    (outcome rule start').1 = (outcome rule start).1.mapError (·.behind count) ∧
      (outcome rule start').2.position = count + (outcome rule start).2.position ∧
      (outcome rule start').2.rest = (outcome rule start).2.rest := by
  cases run : rule.run start with
  | ok value finish =>
      obtain ⟨tokens, reads, follow⟩ := (tracks start start').ok run
      obtain ⟨rest, split, head⟩ := reads.continues
      obtain ⟨finish', run', reads'⟩ := follow ⟨rest, same.trans split, head⟩
      rw [outcome_of_ok run, outcome_of_ok run']
      refine ⟨rfl, ?_, rest_eq_of_reads same reads reads'⟩
      rw [reads'.position_eq, reads.position_eq, behind, Nat.add_assoc]
  | error error finish =>
      obtain ⟨read, seen, reads, -, lies, follow⟩ := (tracks start start').error run
      obtain ⟨rest, split, head⟩ := lies.found
      obtain ⟨finish', run', reads'⟩ :=
        follow ⟨rest, same.trans split, head⟩ fun _ => trivial
      rw [outcome_of_error run, outcome_of_error run']
      refine ⟨?_, ?_, rest_eq_of_reads same reads reads'⟩
      · rw [behind, Nat.add_assoc, ← lies.position_eq]
        rfl
      · rw [reads'.position_eq, reads.position_eq, behind, Nat.add_assoc]

end Grammar

open Grammar

theorem Rule.run_local (settings : Settings) (rule : Rule) : Local (rule.run settings) :=
  rule.run_tracks (.refl settings settings.maxDepth)

namespace Session

/-- The session after some rules have been called in it. -/
def after (session : Session) (rules : List Rule) : Session :=
  rules.foldl (fun session rule => (session.call rule).2) session

/-- What can be seen of a call: what the rule gives, where it leaves the cursor, and whether that is
the end. -/
structure Report where
  result : Except SyntaxError Parsed
  position : Nat
  finished : Bool

/-- What can be seen of a call of a rule in a session. -/
def report (session : Session) (rule : Rule) : Report :=
  let outcome := session.call rule
  ⟨outcome.1, outcome.2.state.cursor.position, outcome.2.finished⟩

/-- The same report behind so many more tokens. -/
def Report.behind (report : Report) (count : Nat) : Report :=
  ⟨report.result.mapError (·.behind count), count + report.position, report.finished⟩

section Calls

variable {session : Session} {rule : Rule} {finish : State}

theorem call_of_ok {parsed : Parsed}
    (run : (rule.run session.settings).run session.state = .ok parsed finish) :
    session.call rule = (.ok parsed, ⟨session.settings, finish⟩) := by
  rw [call, run]

theorem call_of_error {error : SyntaxError}
    (run : (rule.run session.settings).run session.state = .error error finish) :
    session.call rule = (.error error, ⟨session.settings, finish⟩) := by
  rw [call, run]

/-- A call keeps the settings and the tokens. -/
theorem call_keeps (session : Session) (rule : Rule) :
    (session.call rule).2.settings = session.settings ∧
      (session.call rule).2.state.cursor.tokens = session.state.cursor.tokens := by
  have tracks := rule.run_local session.settings
  cases run : (rule.run session.settings).run session.state with
  | ok parsed finish =>
      rw [call_of_ok run]
      obtain ⟨tokens, reads⟩ := tracks.reads run
      exact ⟨rfl, reads.same⟩
  | error error finish =>
      rw [call_of_error run]
      obtain ⟨read, seen, reads, -, -⟩ := tracks.lies run
      exact ⟨rfl, reads.same⟩

theorem after_keeps (session : Session) (rules : List Rule) :
    (session.after rules).settings = session.settings ∧
      (session.after rules).state.cursor.tokens = session.state.cursor.tokens := by
  induction rules generalizing session with
  | nil => exact ⟨rfl, rfl⟩
  | cons rule rules ih =>
      obtain ⟨settings, tokens⟩ := ih (session.call rule).2
      obtain ⟨settings', tokens'⟩ := session.call_keeps rule
      exact ⟨settings.trans settings', tokens.trans tokens'⟩

/-- What a session reports of a call is the outcome of the rule. -/
theorem report_eq (session : Session) (rule : Rule) :
    session.report rule =
      ⟨(outcome (rule.run session.settings) session.state).1,
        (outcome (rule.run session.settings) session.state).2.position,
        (outcome (rule.run session.settings) session.state).2.atEnd⟩ := by
  cases run : (rule.run session.settings).run session.state with
  | ok parsed finish =>
      rw [report, call_of_ok run, outcome_of_ok run]
      rfl
  | error error finish =>
      rw [report, call_of_error run, outcome_of_error run]
      rfl

/-- Sessions with the same tokens left report the same of a call. -/
theorem report_eq_behind {session fresh : Session} (rule : Rule)
    (settings : session.settings = fresh.settings)
    (same : session.state.cursor.rest = fresh.state.cursor.rest)
    (first : fresh.state.cursor.position = 0) :
    session.report rule = (fresh.report rule).behind session.state.cursor.position := by
  have start : session.state.cursor.position =
      session.state.cursor.position + fresh.state.cursor.position := by
    rw [first, Nat.add_zero]
  obtain ⟨result, position, rests⟩ :=
    (rule.run_local fresh.settings).outcome_of_rest_eq same start
  have ends : (outcome (rule.run fresh.settings) session.state).2.atEnd =
      (outcome (rule.run fresh.settings) fresh.state).2.atEnd := by
    rw [Bool.eq_iff_iff, Cursor.atEnd_iff, Cursor.atEnd_iff, rests]
  rw [report_eq, report_eq, settings, result, position, ends]
  rfl

end Calls

/-! ## The counter between calls -/

/-- A counted call does what the call in the session does, and no level is open behind it. -/
theorem countedCall_eq (session : Session) {height : Nat}
    (enough : 9 * (session.settings.maxDepth + 1) ≤ height) (rule : Rule) :
    rule.countedCall session.settings height ⟨session.state, 0⟩ =
      ((session.call rule).1.mapError .refused, ⟨(session.call rule).2.state, 0⟩) := by
  have counts := (counted_counts session.settings rule.call 0
    (rule.call.height_le_of_nine enough)).map rule.parsed
  have counted := counts session.state
  rw [Nat.sub_zero, ← rule.run_eq] at counted
  cases run : (rule.run session.settings).run session.state with
  | ok parsed finish =>
      rw [run_step_of_ok run] at counted
      rw [Rule.countedCall, counted, call_of_ok run]
      rfl
  | error error finish =>
      rw [run_step_of_error run] at counted
      rw [Rule.countedCall, counted, call_of_error run]
      rfl

/-- Counted calls in turn do what the calls in the session do, and no level is open behind any of
them. -/
theorem countedCalls_eq (session : Session) {height : Nat}
    (enough : 9 * (session.settings.maxDepth + 1) ≤ height) (rules : List Rule) :
    Rule.countedCalls session.settings height rules ⟨session.state, 0⟩ =
      (session.calls rules).map fun outcome =>
        (outcome.1.mapError .refused, ⟨outcome.2.state, 0⟩) := by
  induction rules generalizing session with
  | nil => rfl
  | cons rule rules ih =>
      have same := (session.call_keeps rule).1
      have further := ih (session.call rule).2 (same ▸ enough)
      rw [same] at further
      rw [Rule.countedCalls, countedCall_eq session enough rule, further]
      rfl

end Session

/-- Whatever rules have been called before, the next call reports what it reports in a new session
on the tokens that are left, behind those that have been read. Where the open levels are counted,
every call of the session gives the same and leaves no level open. -/
theorem report_after_calls (settings : Settings) (tokens : List Token) (history : List Rule)
    (rule : Rule) :
    (((Session.ofTokens settings tokens).after history).report rule =
      ((Session.ofTokens settings (tokens.drop
        ((Session.ofTokens settings tokens).after history).state.cursor.position)).report
          rule).behind ((Session.ofTokens settings tokens).after history).state.cursor.position) ∧
    ∀ height, 9 * (settings.maxDepth + 1) ≤ height →
      Rule.countedCalls settings height (history ++ [rule])
          ⟨(Session.ofTokens settings tokens).state, 0⟩ =
        ((Session.ofTokens settings tokens).calls (history ++ [rule])).map fun outcome =>
          (outcome.1.mapError .refused, ⟨outcome.2.state, 0⟩) := by
  constructor
  · obtain ⟨same, kept⟩ := (Session.ofTokens settings tokens).after_keeps history
    refine Session.report_eq_behind rule same ?_ rfl
    rw [Cursor.rest, kept]
    exact (Cursor.rest_ofList _).symm
  · intro height enough
    exact (Session.ofTokens settings tokens).countedCalls_eq enough (history ++ [rule])

/-- The block nests too deep at its statement. Behind it the condition has the one level again, for
the group that it gives up. -/
theorem report_after_calls_group :
    ((Session.ofTokens ⟨"let", 1⟩ ["\x7b", "(", "a", ")", "<", "1"]).after [.block]).report
        .condition = ⟨.ok (.tree (.binary .less (.var "a") (.int 1))), 6, true⟩ ∧
      ∀ outcome ∈ Rule.countedCalls ⟨"let", 1⟩ 18 [.block, .condition]
        ⟨(Session.ofTokens ⟨"let", 1⟩ ["\x7b", "(", "a", ")", "<", "1"]).state, 0⟩,
        outcome.2.depth = 0 := by
  obtain ⟨reported, counted⟩ :=
    report_after_calls ⟨"let", 1⟩ ["\x7b", "(", "a", ")", "<", "1"] [.block] .condition
  refine ⟨reported.trans rfl, fun outcome called => ?_⟩
  rw [← List.singleton_append, counted 18 (by decide), List.mem_map] at called
  obtain ⟨plain, -, rfl⟩ := called
  rfl

end BlockLang
