import BlockLang.Proofs.Independence

/-!
# One token of lookahead

Tokens that agree with others through an index may be put in their place without moving a cursor
that stands there. A call that succeeds looks at no token behind the one at which it leaves the
cursor, and a call that fails at none behind its error. So over all tokens that agree through that
one it does the same, also where a group has been given up on the way.
-/

namespace BlockLang

/-- The same token stands at each index through the last one, or none does in either. -/
def AgreeThrough (last : Nat) (tokens tokens' : Array Token) : Prop :=
  ∀ index ≤ last, tokens'[index]? = tokens[index]?

instance (last : Nat) (tokens tokens' : Array Token) :
    Decidable (AgreeThrough last tokens tokens') :=
  inferInstanceAs (Decidable (∀ index ≤ last, tokens'[index]? = tokens[index]?))

/-- Tokens that agree with others are as many, up to the index through which they do. -/
theorem AgreeThrough.le_size {last : Nat} {tokens tokens' : Array Token}
    (agree : AgreeThrough last tokens tokens') {count : Nat} (le : count ≤ last)
    (inside : count ≤ tokens.size) : count ≤ tokens'.size := by
  cases count with
  | zero => exact Nat.zero_le _
  | succ index =>
      have present : tokens'[index]? = some tokens[index] := by
        rw [agree index (by omega), Array.getElem?_eq_getElem inside]
      exact (Array.getElem?_eq_some_iff.mp present).1

namespace Cursor

/-- The cursor at the same position of other tokens, or at their end if they are fewer. -/
def onto (cursor : Cursor) (tokens : Array Token) : Cursor :=
  (ofArray tokens).rewind cursor.checkpoint

variable {cursor : Cursor} {tokens : Array Token} {last : Nat}

theorem position_onto (agree : AgreeThrough last cursor.tokens tokens)
    (le : cursor.position ≤ last) : (cursor.onto tokens).position = cursor.position :=
  Nat.min_eq_left (agree.le_size le cursor.position_le)

theorem peek_onto (agree : AgreeThrough last cursor.tokens tokens) (le : cursor.position ≤ last) :
    (cursor.onto tokens).peek = cursor.peek := by
  have position := position_onto agree le
  change tokens[(cursor.onto tokens).position]? = _
  rw [position]
  exact agree cursor.position le

/-- Over tokens that agree a cursor moves on as it does over its own. -/
theorem next_onto (agree : AgreeThrough last cursor.tokens tokens) {token : Token}
    (front : cursor.peek = some token) (le : cursor.position ≤ last) :
    (cursor.onto tokens).next = cursor.next.onto tokens := by
  have front' : (cursor.onto tokens).peek = some token := (peek_onto agree le).trans front
  have position : (cursor.onto tokens).next.position = cursor.position + 1 := by
    rw [(reads_next front').position_eq, position_onto agree le]
    rfl
  have inside : (cursor.onto tokens).next.position ≤ tokens.size := by
    have bound := (cursor.onto tokens).next.position_le
    rw [tokens_next] at bound
    exact bound
  rw [position] at inside
  have position' : (cursor.next.onto tokens).position = cursor.position + 1 := by
    change min cursor.next.position tokens.size = _
    rw [(reads_next front).position_eq]
    exact Nat.min_eq_left inside
  have arrays : (cursor.onto tokens).next.tokens = (cursor.next.onto tokens).tokens :=
    tokens_next _
  rw [← position'] at position
  cases moved : (cursor.onto tokens).next
  cases moved' : cursor.next.onto tokens
  simp_all

/-- Over tokens that agree through the one behind a stretch, a cursor goes on with the stretch. -/
theorem Continues.onto {read : List Token} {next : Option Token}
    (continues : cursor.Continues read next)
    (agree : AgreeThrough (cursor.position + read.length) cursor.tokens tokens) :
    (cursor.onto tokens).Continues read next := by
  induction read generalizing cursor with
  | nil =>
      rw [Continues.nil_iff] at continues ⊢
      exact (peek_onto agree (Nat.le_add_right _ _)).trans continues
  | cons token read ih =>
      obtain ⟨front, further⟩ := Continues.cons_iff.mp continues
      have position : cursor.next.position = cursor.position + 1 := (reads_next front).position_eq
      refine Continues.cons_iff.mpr ⟨(peek_onto agree (Nat.le_add_right _ _)).trans front, ?_⟩
      rw [next_onto agree front (Nat.le_add_right _ _)]
      refine ih further ?_
      rw [tokens_next, position, Nat.add_assoc, Nat.add_comm 1]
      exact agree

end Cursor

namespace Grammar

variable {α : Type} {rule : RuleM α} {start start' finish : State} {tokens : Array Token}

/-- A local rule that succeeds does so over all tokens that agree through the one at which it leaves
the cursor. -/
theorem Tracks.ok_onto (tracks : Local rule) {value : α}
    (run : rule.run start = .ok value finish) (same : start'.cursor = start.cursor.onto tokens)
    (agree : AgreeThrough finish.cursor.position start.cursor.tokens tokens) :
    ∃ finish', rule.run start' = .ok value finish' ∧
      finish'.cursor.position = finish.cursor.position := by
  obtain ⟨read, reads⟩ := tracks.reads run
  have behind := reads.position_eq
  have position := Cursor.position_onto agree reads.position_le
  have again : start'.cursor.Continues read finish.cursor.peek := by
    rw [same]
    exact reads.continues.onto (behind ▸ agree)
  obtain ⟨finish', run', reads'⟩ := tracks.follow_ok run reads again
  refine ⟨finish', run', ?_⟩
  rw [reads'.position_eq, behind, same, position]

/-- A local rule that fails does so over all tokens that agree through its error. -/
theorem Tracks.error_onto (tracks : Local rule) {error : SyntaxError}
    (run : rule.run start = .error error finish) (same : start'.cursor = start.cursor.onto tokens)
    (agree : AgreeThrough error.position start.cursor.tokens tokens) :
    ∃ finish', rule.run start' = .error error finish' ∧
      finish'.cursor.position = finish.cursor.position := by
  obtain ⟨read, seen, reads, part, lies⟩ := tracks.lies run
  have behind := lies.position_eq
  have position := Cursor.position_onto agree (tracks.position_le_of_error run)
  have again : start'.cursor.Continues seen error.found := by
    rw [same]
    exact lies.found.onto (behind ▸ agree)
  obtain ⟨finish', run', reads'⟩ := tracks.follow_error run reads lies again fun _ => trivial
  rw [same, position, ← behind] at run'
  refine ⟨finish', run', ?_⟩
  rw [reads'.position_eq, reads.position_eq, same, position]

/-- No call depends on tokens behind the one at which it leaves the cursor, or behind its error if
it fails: over all tokens that agree through that one it starts at the same position, gives the same
and leaves the cursor at the same position. -/
theorem Call.run_of_agreeThrough (settings : Settings) (levels : Nat) (call : Call) (start : State)
    (tokens : Array Token) (log : Array Event) :
    (∀ value finish, (call.rule settings levels).run start = .ok value finish →
      AgreeThrough finish.cursor.position start.cursor.tokens tokens →
      (start.cursor.onto tokens).position = start.cursor.position ∧
        ∃ finish', (call.rule settings levels).run ⟨start.cursor.onto tokens, log⟩ =
            .ok value finish' ∧
          finish'.cursor.position = finish.cursor.position) ∧
    ∀ error finish, (call.rule settings levels).run start = .error error finish →
      AgreeThrough error.position start.cursor.tokens tokens →
      (start.cursor.onto tokens).position = start.cursor.position ∧
        ∃ finish', (call.rule settings levels).run ⟨start.cursor.onto tokens, log⟩ =
            .error error finish' ∧
          finish'.cursor.position = finish.cursor.position := by
  have tracks : Local (call.rule settings levels) := call.rule_tracks (.refl settings levels)
  constructor
  · intro value finish run agree
    exact ⟨Cursor.position_onto agree (tracks.position_le_of_ok run),
      tracks.ok_onto run rfl agree⟩
  · intro error finish run agree
    exact ⟨Cursor.position_onto agree (tracks.position_le_of_error run),
      tracks.error_onto run rfl agree⟩

/-- A group is given up in both. The comparison ends before the separator, and the group that is
not closed is refused there, whatever is behind it. -/
theorem Call.run_of_agreeThrough_group :
    (∃ finish, (Call.condition.rule {} 1).run
        ⟨(Cursor.ofArray #["(", "a", ")", "<", "1", ";"]).onto
          #["(", "a", ")", "<", "1", ";", "\x7d", ")"], #[]⟩ =
        .ok (.binary .less (.var "a") (.int 1)) finish ∧ finish.cursor.position = 5) ∧
    ∃ finish, (Call.condition.rule {} 1).run
        ⟨(Cursor.ofArray #["(", "a", "<", "1", ";"]).onto
          #["(", "a", "<", "1", ";", "\x7d", ")"], #[]⟩ =
        .error ⟨.unexpectedToken, .expected .closeGroup, 4, some ";"⟩ finish ∧
      finish.cursor.position = 2 := by
  have read : ∃ finish, (Call.condition.rule {} 1).run
      ⟨.ofArray #["(", "a", ")", "<", "1", ";"], #[]⟩ =
        .ok (.binary .less (.var "a") (.int 1)) finish ∧ finish.cursor.position = 5 :=
    ⟨_, rfl, rfl⟩
  have refused : ∃ finish, (Call.condition.rule {} 1).run
      ⟨.ofArray #["(", "a", "<", "1", ";"], #[]⟩ =
        .error ⟨.unexpectedToken, .expected .closeGroup, 4, some ";"⟩ finish ∧
      finish.cursor.position = 2 :=
    ⟨_, rfl, rfl⟩
  constructor
  · obtain ⟨finish, run, place⟩ := read
    obtain ⟨finish', run', place'⟩ := ((Call.run_of_agreeThrough {} 1 .condition _
      #["(", "a", ")", "<", "1", ";", "\x7d", ")"] #[]).1 _ _ run (by rw [place]; decide)).2
    exact ⟨finish', run', place'.trans place⟩
  · obtain ⟨finish, run, place⟩ := refused
    obtain ⟨finish', run', place'⟩ := ((Call.run_of_agreeThrough {} 1 .condition _
      #["(", "a", "<", "1", ";", "\x7d", ")"] #[]).2 _ _ run (by decide)).2
    exact ⟨finish', run', place'.trans place⟩

end Grammar

end BlockLang
