import BlockLang.Token.Reader

/-!
# Readers stay within their tokens

No reader bounds its position, and a checkpoint may lie behind a reader or before it. What keeps a
reader within its tokens is said of all readers in use and all checkpoints together: each of them is
at a position in the same tokens. So nothing underflows, the tests for the end agree, a reader that
goes to a checkpoint becomes the reader on which it was taken, and a cursor, which bounds its
position, does the same as a reader.
-/

namespace BlockLang

namespace Reader

variable {tokens : List Token} {reader origin : Reader}

/-- A reader stands in some tokens, or at their end. -/
structure Within (tokens : List Token) (reader : Reader) : Prop where
  same : reader.tokens = tokens.toArray
  bound : reader.position ≤ tokens.length

namespace Within

theorem ofList (tokens : List Token) : Within tokens (.ofList tokens) := ⟨rfl, Nat.zero_le _⟩

theorem remaining?_eq (within : Within tokens reader) :
    reader.remaining? = some (tokens.length - reader.position) := by
  have bound : reader.position ≤ reader.tokens.size := by simpa [within.same] using within.bound
  rw [remaining?, if_pos bound, within.same, List.size_toArray]

theorem peek_eq (within : Within tokens reader) : reader.peek = tokens[reader.position]? := by
  rw [peek, within.same, List.getElem?_toArray]

theorem peek_eq_none_iff (within : Within tokens reader) :
    reader.peek = none ↔ reader.position = tokens.length := by
  have bound := within.bound
  rw [within.peek_eq, List.getElem?_eq_none_iff]
  omega

theorem atEnd_iff (within : Within tokens reader) :
    reader.atEnd = true ↔ reader.position = tokens.length := by
  have bound := within.bound
  rw [atEnd, decide_eq_true_iff, within.same, List.size_toArray]
  omega

/-- A token stands before the end, so the position behind it is still one in the tokens. -/
theorem next (within : Within tokens reader) {token : Token} (front : reader.peek = some token) :
    Within tokens reader.next := by
  refine ⟨within.same, ?_⟩
  rw [within.peek_eq] at front
  exact (List.getElem?_eq_some_iff.mp front).1

end Within

/-- At a checkpoint a reader is what the reader was on which it was taken. -/
theorem rewind_checkpoint (within : Within tokens reader) (within' : Within tokens origin) :
    reader.rewind origin.checkpoint = origin := by
  cases origin with
  | mk held position =>
      have same : reader.tokens = held := within.same.trans within'.same.symm
      rw [rewind, same]
      rfl

theorem peek_of_check {lexeme : Token} (accepted : reader.check lexeme = true) :
    reader.peek = some lexeme :=
  beq_iff_eq.mp accepted

/-- The front token is missing only at the end, and the error says so. -/
theorem error_of_front (within : Within tokens reader) {expectation : Expectation}
    {error : SyntaxError} (failed : reader.front expectation = .error error) :
    error = .endOfInput expectation tokens.length := by
  unfold front at failed
  split at failed
  next => cases failed
  next ended =>
    cases failed
    rw [within.peek_eq_none_iff.mp ended]

theorem advance_of_error {expectation : Expectation} {error : SyntaxError}
    (failed : (reader.advance expectation).1 = .error error) :
    (reader.advance expectation).2 = reader ∧ reader.front expectation = .error error := by
  cases given : reader.front expectation with
  | ok token => simp [advance, given] at failed
  | error error' => simpa [advance, given] using failed

theorem accept_of_refused {lexeme : Token} (refused : (reader.accept lexeme).1 = false) :
    (reader.accept lexeme).2 = reader := by
  cases given : reader.check lexeme with
  | true => simp [accept, given] at refused
  | false => simp [accept, given]

/-- One action keeps a reader within its tokens, if it goes to no checkpoint beyond them. -/
theorem Within.step (within : Within tokens reader) (action : Action)
    (taken : ∀ checkpoint, action = .rewind checkpoint → checkpoint.position ≤ tokens.length) :
    Within tokens (reader.step action).2 := by
  cases action with
  | peek => exact within
  | front expectation => exact within
  | check lexeme => exact within
  | checkpoint => exact within
  | copy => exact within
  | advance expectation =>
      cases front : reader.peek with
      | none => simpa [Reader.step, advance, Reader.front, front] using within
      | some token => simpa [Reader.step, advance, Reader.front, front] using within.next front
  | accept lexeme =>
      cases accepted : reader.check lexeme with
      | false => simpa [Reader.step, accept, accepted] using within
      | true =>
          simpa [Reader.step, accept, accepted] using within.next (peek_of_check accepted)
  | rewind checkpoint => exact ⟨within.same, taken checkpoint rfl⟩

end Reader

namespace Readers

variable {tokens : List Token} {readers next : Readers}

/-- All readers in use and all checkpoints are within the same tokens. -/
structure Within (tokens : List Token) (readers : Readers) : Prop where
  inUse : ∀ reader ∈ readers.inUse, reader.Within tokens
  saved : ∀ origin ∈ readers.saved, origin.Within tokens

/-- Each step keeps all readers and all checkpoints within the tokens. -/
theorem Within.step (within : Within tokens readers) (step : Step readers next) :
    Within tokens next := by
  cases step with
  | @act before after saved reader action taken =>
      obtain ⟨first, one, last⟩ := List.forall_mem_append.mp within.inUse |>.imp id
        List.forall_mem_cons.mp
      have kept := one.step action fun checkpoint same => by
        obtain ⟨origin, member, rfl⟩ := taken checkpoint same
        exact (within.saved origin member).bound
      exact ⟨List.forall_mem_append.mpr ⟨first, List.forall_mem_cons.mpr ⟨kept, last⟩⟩,
        within.saved⟩
  | @save before after saved reader =>
      have one := within.inUse reader (List.mem_append_right _ List.mem_cons_self)
      exact ⟨within.inUse, List.forall_mem_cons.mpr ⟨one, within.saved⟩⟩
  | @copy before after saved reader =>
      obtain ⟨first, rest⟩ := List.forall_mem_append.mp within.inUse
      have one := (List.forall_mem_cons.mp rest).1
      exact ⟨List.forall_mem_append.mpr ⟨first, List.forall_mem_cons.mpr ⟨one, rest⟩⟩,
        within.saved⟩

theorem Reached.within (reached : Reached tokens readers) : Within tokens readers := by
  induction reached with
  | start => exact ⟨List.forall_mem_singleton.mpr (.ofList tokens), by simp⟩
  | step reached step ih => exact ih.step step

end Readers

/-! ## Cursors are readers -/

/-- The reader at the position of a cursor. -/
def Cursor.reader (cursor : Cursor) : Reader := ⟨cursor.tokens, cursor.position⟩

namespace Cursor

variable {cursor : Cursor}

theorem front_reader (expectation : Expectation) :
    cursor.reader.front expectation = cursor.front expectation := rfl

theorem check_reader (lexeme : Token) : cursor.reader.check lexeme = cursor.check lexeme := rfl

theorem reader_next {token : Token} (front : cursor.peek = some token) :
    cursor.next.reader = cursor.reader.next := by
  have inside : cursor.position < cursor.tokens.size := (Array.getElem?_eq_some_iff.mp front).1
  simp [next, inside, reader, Reader.next]

theorem peek_of_front {expectation : Expectation} {token : Token}
    (given : cursor.front expectation = .ok token) : cursor.peek = some token := by
  unfold front at given
  split at given
  next found => exact found.trans (congrArg some (Except.ok.inj given))
  next => cases given

/-- A cursor goes no farther than the end, where no checkpoint lies. -/
theorem reader_rewind {checkpoint : Checkpoint}
    (bound : checkpoint.position ≤ cursor.tokens.size) :
    (cursor.rewind checkpoint).reader = cursor.reader.rewind checkpoint := by
  simp [rewind, reader, Reader.rewind, Nat.min_eq_left bound]

end Cursor

namespace Walk

variable {tokens : List Token} {walk : Walk}

/-- A walk stands in some tokens, and all its checkpoints are positions in them. -/
structure Within (tokens : List Token) (walk : Walk) : Prop where
  here : walk.cursor.reader.Within tokens
  saved : ∀ checkpoint ∈ walk.saved, checkpoint.position ≤ tokens.length

/-- Where a walk asks nothing of its cursor, it goes on unchanged. -/
theorem step_of_none {action : Action} (asks : Reader.Action.ofWalk walk.saved action = none) :
    walk.step action = (.moved, walk) := by
  cases action with
  | rewind index =>
      have absent : walk.saved[index]? = none := Option.map_eq_none_iff.mp asks
      rw [step, rewind, absent]
  | _ => cases asks

/-- One action of a walk is one action of a reader at the same place. -/
theorem step_of_some (within : walk.Within tokens) {action : Action} {asked : Reader.Action}
    (asks : Reader.Action.ofWalk walk.saved action = some asked) :
    (walk.step action).1 = (walk.cursor.reader.step asked).1.inWalk walk.saved.size ∧
      (walk.step action).2.cursor.reader = (walk.cursor.reader.step asked).2 ∧
      (walk.step action).2.saved = (walk.cursor.reader.step asked).1.remember walk.saved := by
  cases action with
  | peek | check lexeme | checkpoint | copy =>
      cases asks
      exact ⟨rfl, rfl, rfl⟩
  | front expectation =>
      cases asks
      cases given : walk.cursor.front expectation <;>
        simp [step, Reader.step, Cursor.front_reader, given, Reader.Answer.inWalk,
          Reader.Answer.remember]
  | advance expectation =>
      cases asks
      cases given : walk.cursor.front expectation with
      | error error =>
          simp [step, Cursor.advance, Reader.step, Reader.advance, Cursor.front_reader, given,
            Except.map, Reader.Answer.inWalk, Reader.Answer.remember]
      | ok token =>
          simp [step, Cursor.advance, Reader.step, Reader.advance, Cursor.front_reader, given,
            Except.map, Reader.Answer.inWalk, Reader.Answer.remember,
            Cursor.reader_next (Cursor.peek_of_front given)]
  | accept lexeme =>
      cases asks
      cases accepted : walk.cursor.check lexeme with
      | false =>
          simp [step, Cursor.accept, Reader.step, Reader.accept, Cursor.check_reader, accepted,
            Reader.Answer.inWalk, Reader.Answer.remember]
      | true =>
          simp [step, Cursor.accept, Reader.step, Reader.accept, Cursor.check_reader, accepted,
            Reader.Answer.inWalk, Reader.Answer.remember,
            Cursor.reader_next (beq_iff_eq.mp accepted)]
  | rewind index =>
      obtain ⟨checkpoint, held, rfl⟩ := Option.map_eq_some_iff.mp asks
      have bound : checkpoint.position ≤ walk.cursor.tokens.size := by
        have size : walk.cursor.tokens.size = tokens.length := congrArg Array.size within.here.same
        rw [size]
        exact within.saved checkpoint (Array.mem_of_getElem? held)
      rw [step, rewind, held]
      exact ⟨rfl, Cursor.reader_rewind bound, rfl⟩

/-- A walk goes only to checkpoints that it has taken. -/
theorem mem_of_asks {action : Action} {checkpoint : Cursor.Checkpoint}
    (asks : Reader.Action.ofWalk walk.saved action = some (.rewind checkpoint)) :
    checkpoint ∈ walk.saved := by
  cases action with
  | rewind index =>
      obtain ⟨held, found, same⟩ := Option.map_eq_some_iff.mp asks
      cases same
      exact Array.mem_of_getElem? found
  | _ => cases asks

theorem Within.step (within : walk.Within tokens) (action : Action) :
    (walk.step action).2.Within tokens := by
  cases asks : Reader.Action.ofWalk walk.saved action with
  | none =>
      rw [step_of_none asks]
      exact within
  | some asked =>
      obtain ⟨-, reader, saved⟩ := step_of_some within asks
      constructor
      · rw [reader]
        refine within.here.step asked ?_
        rintro checkpoint rfl
        exact within.saved checkpoint (mem_of_asks asks)
      · rw [saved]
        intro checkpoint member
        cases asked with
        | checkpoint =>
            rcases Array.mem_push.mp member with before | rfl
            · exact within.saved checkpoint before
            · exact within.here.bound
        | _ => exact within.saved checkpoint member

/-- A walk over a cursor is the walk over a reader at the same place. -/
theorem trace_eq_walk (within : walk.Within tokens) (actions : List Action) :
    (walk.trace actions).map (fun outcome => (outcome.1, outcome.2.cursor.reader)) =
      walk.cursor.reader.walk walk.saved actions := by
  induction actions generalizing walk with
  | nil => rfl
  | cons action actions ih =>
      rw [trace, List.map_cons, ih (within.step action), Reader.walk]
      cases asks : Reader.Action.ofWalk walk.saved action with
      | none => rw [step_of_none asks]
      | some asked =>
          obtain ⟨answer, reader, saved⟩ := step_of_some within asks
          rw [answer, reader, saved]

end Walk

/-- What holds of every reader in use over some tokens. -/
structure Reader.Settled (tokens : List Token) (reader : Reader) : Prop where
  same : reader.tokens = tokens.toArray
  bound : reader.position ≤ tokens.length
  left : ∃ count, reader.remaining? = some count ∧ reader.position + count = tokens.length
  atEnd_iff : reader.atEnd = true ↔ reader.peek = none
  peek_iff : reader.peek = none ↔ reader.remaining? = some 0
  front : ∀ expectation error, reader.front expectation = .error error →
    error = .endOfInput expectation tokens.length
  advance : ∀ expectation error, (reader.advance expectation).1 = .error error →
    error = .endOfInput expectation tokens.length ∧ (reader.advance expectation).2 = reader
  accept : ∀ lexeme, (reader.accept lexeme).1 = false → (reader.accept lexeme).2 = reader

theorem Reader.Within.settled {tokens : List Token} {reader : Reader}
    (within : reader.Within tokens) : reader.Settled tokens where
  same := within.same
  bound := within.bound
  left := ⟨_, within.remaining?_eq, Nat.add_sub_of_le within.bound⟩
  atEnd_iff := within.atEnd_iff.trans within.peek_eq_none_iff.symm
  peek_iff := by
    have bound := within.bound
    rw [within.peek_eq_none_iff, within.remaining?_eq, Option.some.injEq]
    omega
  front _ _ failed := error_of_front within failed
  advance _ _ failed :=
    ⟨error_of_front within (advance_of_error failed).2, (advance_of_error failed).1⟩
  accept _ refused := accept_of_refused refused

/-- However readers over some tokens are used, copied and moved to each other's checkpoints, none
leaves the tokens or is changed by what fails; at a checkpoint, whether it lies behind or before, a
reader goes on as the one did on which it was taken; and walks over cursors, which bound every
position, are walks over such readers. -/
theorem readers_stay_within {tokens : List Token} {readers : Readers}
    (reached : Readers.Reached tokens readers) :
    (∀ reader ∈ readers.inUse, reader.Settled tokens) ∧
    (∀ reader ∈ readers.inUse, ∀ origin ∈ readers.saved, ∀ actions,
      (reader.rewind origin.checkpoint).trace actions = origin.trace actions) ∧
    ∀ actions,
      ((Walk.mk (.ofList tokens) #[]).trace actions).map
          (fun outcome => (outcome.1, outcome.2.cursor.reader)) =
        (Reader.ofList tokens).walk #[] actions := by
  have within := reached.within
  refine ⟨fun reader member => (within.inUse reader member).settled, ?_, ?_⟩
  · intro reader member origin member' actions
    rw [Reader.rewind_checkpoint (within.inUse reader member) (within.saved origin member')]
  · intro actions
    have opened : (Walk.mk (.ofList tokens) #[]).Within tokens := ⟨.ofList tokens, by simp⟩
    exact Walk.trace_eq_walk opened actions

/-- A checkpoint is taken at the start, and one behind the first token on a copy; the other reader
has gone back to the start, and the second checkpoint lies before it. -/
theorem readers_stay_within_copied :
    ∃ readers, Readers.Reached ["(", "a"] readers ∧
      readers.inUse.map Reader.position = [0, 1] ∧ readers.saved.map Reader.position = [1, 0] ∧
      ∀ reader ∈ readers.inUse, ∀ origin ∈ readers.saved, ∀ actions,
        (reader.rewind origin.checkpoint).trace actions = origin.trace actions := by
  have opened : Readers.Reached ["(", "a"] ⟨[.ofList ["(", "a"]], []⟩ := .start
  have marked := opened.step (@Readers.Step.save [] [] [] _)
  have moved := marked.step (@Readers.Step.act [] [] _ _ (.advance .operand) (by simp))
  have copied := moved.step (@Readers.Step.copy [] [] _ _)
  have ahead := copied.step (@Readers.Step.save [_] [] _ _)
  have reached := ahead.step (@Readers.Step.act [] [_] _ _ (.rewind ⟨0⟩) fun checkpoint same =>
    ⟨.ofList ["(", "a"], List.mem_cons_of_mem _ List.mem_cons_self, by cases same; rfl⟩)
  exact ⟨_, reached, rfl, rfl, (readers_stay_within reached).2.1⟩

end BlockLang
