import BlockLang.Proofs.Concatenation
import BlockLang.Proofs.Following

/-!
# Statements by themselves

A statement by itself may end in a separator, and in a block it must. Apart from that the two read
the same statements, since it makes no difference to a statement whether a separator follows it or
nothing does. A block has one level more, which its braces take. Only a declaration keyword that is
the brace behind a block is read by itself and closes the block instead.
-/

namespace BlockLang

/-- Some tokens without a separator at their end. -/
def withoutSeparator (tokens : List Token) : List Token :=
  if tokens.getLast? = some ";" then tokens.dropLast else tokens

theorem withoutSeparator_append (tokens : List Token) :
    withoutSeparator (tokens ++ [";"]) = tokens := by
  simp [withoutSeparator]

theorem withoutSeparator_of_last {tokens : List Token} {last : Token}
    (ended : tokens.getLast? = some last) (other : last ≠ ";") :
    withoutSeparator tokens = tokens := by
  rw [withoutSeparator, ended, if_neg fun same => other (Option.some.inj same)]

theorem eq_withoutSeparator_or (tokens : List Token) :
    tokens = withoutSeparator tokens ∨ tokens = withoutSeparator tokens ++ [";"] := by
  rw [withoutSeparator]
  split
  next ended =>
      obtain ⟨before, rfl⟩ := List.getLast?_eq_some_iff.mp ended
      exact .inr (by simp)
  next => exact .inl rfl

namespace Grammar

variable {settings : Settings} {levels : Nat} {tokens : List Token} {tree : Tree}

/-- Some tokens are read as a statement before any token that ends it. -/
abbrev ReadsStatement (settings : Settings) (levels : Nat) (tokens : List Token) (tree : Tree) :
    Prop :=
  Handles (statement settings levels) Symbol.statement.Ends tokens tree

theorem statement_ends_none : Symbol.statement.Ends none :=
  ⟨.of_not_operator fun _ => nofun, nofun, nofun⟩

namespace ReadsStatement

/-- The limit shows in errors only. -/
theorem of_keyword {settings' : Settings} (reads : ReadsStatement settings levels tokens tree)
    (same : settings'.keyword = settings.keyword) :
    ReadsStatement settings' levels tokens tree := by
  have widens : Widens False settings levels settings' levels := ⟨same, Nat.le_refl _, False.elim⟩
  intro start next continues ended
  obtain ⟨finish, run, stretch⟩ := reads start next continues ended
  exact (statement_block_tracks widens).1.follow_ok run stretch stretch.continues

/-- What is read as a statement is derived. -/
theorem exists_derivation (reads : ReadsStatement settings levels tokens tree) :
    ∃ derivation : Derivation settings.keyword .statement, derivation.tokens = tokens := by
  have continues : (opening settings tokens).cursor.Continues tokens none := ⟨[], by simp, rfl⟩
  obtain ⟨finish, run, stretch⟩ := reads _ none continues statement_ends_none
  obtain ⟨read, stretch', derivation, rfl, -, -⟩ :=
    ((statement_block_sound settings levels).1 _).ok run
  exact ⟨derivation, stretch'.tokens_eq stretch⟩

/-- A statement has a last token, which is no separator. -/
theorem withoutSeparator_eq (reads : ReadsStatement settings levels tokens tree) :
    withoutSeparator tokens = tokens := by
  obtain ⟨derivation, rfl⟩ := reads.exists_derivation
  obtain ⟨last, ended, other⟩ := derivation.exists_last nofun
  exact withoutSeparator_of_last ended other

/-- The first token is the same with a separator behind the statement, and it is no brace behind a
block unless the keyword is. -/
theorem exists_first (reads : ReadsStatement settings levels (withoutSeparator tokens) tree) :
    ∃ head more, withoutSeparator tokens = head :: more ∧ tokens.head? = some head ∧
      (head = "\x7d" → settings.keyword = "\x7d") := by
  obtain ⟨derivation, same⟩ := reads.exists_derivation
  obtain ⟨head, more, split, closes⟩ := derivation.exists_head
  rw [same] at split
  refine ⟨head, more, split, ?_, closes⟩
  rcases eq_withoutSeparator_or tokens with alone | separated
  · rw [alone, split]
    rfl
  · rw [separated, split]
    rfl

end ReadsStatement

/-! ## By itself -/

/-- Behind a statement by itself nothing follows but perhaps a separator. -/
theorem standalone_reads {start finish : State}
    (run : (standalone settings levels).run start = .ok tree finish) :
    ∃ read, ReadsStatement settings levels read tree ∧
      (start.cursor.rest = read ∨ start.cursor.rest = read ++ [";"]) := by
  obtain ⟨value, middle, one, run⟩ := run_bind_ok run
  obtain ⟨accepted, later, passed, run⟩ := run_bind_ok run
  obtain ⟨_, last, ended, run⟩ := run_bind_ok run
  cases run
  obtain ⟨nothing, -⟩ := peek_of_requireEnd ended
  obtain ⟨read, reads, handles⟩ := statement_indifferent settings levels start _ _ one
  have whole := reads.rest
  rcases (accept_decides ";").of_ok passed with ⟨decision, same⟩ | ⟨decision, moved⟩
  · rw [same] at nothing
    rw [Cursor.rest_eq_nil nothing, List.append_nil] at whole
    exact ⟨read, handles (nothing ▸ statement_ends_none), .inl whole⟩
  · split at decision
    next separator =>
      rw [moved] at nothing
      rw [Cursor.rest_eq_cons separator, Cursor.rest_eq_nil nothing] at whole
      exact ⟨read, handles (separator ▸ statement_ends_separator), .inr whole⟩
    next => cases decision

theorem standalone_yields (reads : ReadsStatement settings levels tokens tree)
    {behind : List Token} (separated : behind = [] ∨ behind = [";"]) {start : State}
    (continues : start.cursor.Continues (tokens ++ behind) none) :
    Yields (standalone settings levels) start (tokens ++ behind) tree := by
  have ends (value : Tree) (middle : State) (continues : middle.cursor.Continues [] none) :
      Yields (do
        requireEnd .statementEnd
        return value) middle [] value := by
    have ended := Cursor.Continues.nil_iff.mp continues
    exact .skip continues (.requireEnd .statementEnd ended) fun later _ => .pure value later
  rcases separated with rfl | rfl
  · have alone := reads start none (List.append_nil tokens ▸ continues) statement_ends_none
    refine alone.bind continues fun middle continues => ?_
    have other : middle.cursor.peek ≠ some ";" := by
      rw [Cursor.Continues.nil_iff.mp continues]
      nofun
    exact .skip continues (.accept_other other) (ends tree)
  · refine reads.bind statement_ends_separator continues fun middle continues => ?_
    exact .step continues (.accept continues.front) (ends tree)

/-- What is read by itself is read as a statement without its separator. -/
theorem parse_standalone_iff :
    Rule.standalone.parse settings tokens = .ok tree ↔
      ReadsStatement settings settings.maxDepth (withoutSeparator tokens) tree := by
  rw [parse_eq_ok_iff rfl]
  constructor
  · rintro ⟨finish, run⟩
    obtain ⟨read, reads, either⟩ := standalone_reads run
    rw [rest_opening] at either
    rcases either with rfl | rfl
    · rw [reads.withoutSeparator_eq]
      exact reads
    · rw [withoutSeparator_append]
      exact reads
  · intro reads
    obtain ⟨behind, separated, split⟩ : ∃ behind, (behind = [] ∨ behind = [";"]) ∧
        tokens = withoutSeparator tokens ++ behind := by
      rcases eq_withoutSeparator_or tokens with same | same
      · exact ⟨[], .inl rfl, by rw [List.append_nil, ← same]⟩
      · exact ⟨[";"], .inr rfl, same⟩
    have continues : (opening settings tokens).cursor.Continues
        (withoutSeparator tokens ++ behind) none := ⟨[], by simp [← split], rfl⟩
    obtain ⟨finish, run, -⟩ := standalone_yields reads separated continues
    exact ⟨finish, run⟩

/-! ## In a block -/

/-- The statement of a block with no other is read as one, and it does not begin with the brace that
closes the block. -/
theorem programRest_single {start finish : State}
    (run : (programRest settings levels).run start = .ok (.block [tree]) finish)
    (behind : start.cursor.rest = tokens ++ [";", "\x7d"]) :
    ReadsStatement settings levels tokens tree ∧ tokens.head? ≠ some "\x7d" := by
  have tracks := (statement_block_local settings levels).1
  obtain ⟨statements, middle, same, listed, closing⟩ := programRest_ok run
  cases same
  cases listReading_of_run tracks listed with
  | @separated token _ _ later _ front other one separator further =>
      cases listReading_of_run tracks further with
      | closed =>
          obtain ⟨read, reads, handles⟩ := statement_indifferent settings levels start _ _ one
          have whole := reads.rest
          rw [advanced_cursor] at closing
          rw [behind, Cursor.rest_eq_cons separator, closing] at whole
          obtain rfl : tokens = read := List.append_cancel_right whole
          refine ⟨handles (separator ▸ statement_ends_separator), fun closes => ?_⟩
          obtain ⟨others, rfl⟩ := List.head?_eq_some_iff.mp closes
          rw [← Cursor.head?_rest, behind] at front
          exact other (Option.some.inj front).symm

/-- A statement that does not begin with that brace is read as the only one of a block. -/
theorem parseProgram_of_readsStatement (more : settings.maxDepth = levels + 1) {head : Token}
    (other : head ≠ "\x7d") (reads : ReadsStatement settings levels (head :: tokens) tree) :
    parseProgram settings ("\x7b" :: (head :: tokens) ++ [";", "\x7d"]) = .ok (.block [tree]) := by
  have block := handles_braces (handles_cons other statement_ends_separator reads handles_empty)
  rw [← more] at block
  simpa using parseProgram_of_handles block

end Grammar

open Grammar in
/-- A statement is read by itself, with or without a separator, exactly when it is read as the only
one of a program that has one level more, unless the declaration keyword is the brace that closes
the program and stands first. -/
theorem parseProgram_single_iff_standalone (settings : Settings) (tokens : List Token)
    (tree : Tree) :
    parseProgram ⟨settings.keyword, settings.maxDepth + 1⟩
        ("\x7b" :: withoutSeparator tokens ++ [";", "\x7d"]) = .ok (.block [tree]) ↔
      Rule.standalone.parse settings tokens = .ok tree ∧
        ¬ (settings.keyword = "\x7d" ∧ tokens.head? = some "\x7d") := by
  have more : Settings.maxDepth ⟨settings.keyword, settings.maxDepth + 1⟩ =
      settings.maxDepth + 1 := rfl
  rw [parse_standalone_iff]
  constructor
  · intro parsed
    obtain ⟨inside, behind, -, alone⟩ :=
      parseProgram_eq_programRest more (withoutSeparator tokens ++ [";", "\x7d"])
    obtain ⟨finish, run⟩ := run_of_outcome_ok (alone.symm.trans parsed)
    obtain ⟨reads, opens⟩ := programRest_single run behind
    obtain ⟨head, others, split, first, -⟩ := reads.exists_first
    refine ⟨reads.of_keyword rfl, fun closes => opens ?_⟩
    rw [split, ← closes.2, first]
    rfl
  · rintro ⟨reads, opens⟩
    obtain ⟨head, others, split, first, closes⟩ := reads.exists_first
    have other : head ≠ "\x7d" := by
      rintro rfl
      exact opens ⟨closes rfl, first⟩
    rw [split] at reads ⊢
    exact parseProgram_of_readsStatement more other (reads.of_keyword rfl)

/-- With the brace for its keyword a declaration is read by itself, but in a program the brace
closes the block. -/
theorem not_parseProgram_single_of_closing_keyword :
    ¬ (Rule.standalone.parse ⟨"\x7d", 1⟩ ["\x7d", "x"] = .ok (.declare ["x"]) ↔
      parseProgram ⟨"\x7d", 2⟩ ("\x7b" :: withoutSeparator ["\x7d", "x"] ++ [";", "\x7d"]) =
        .ok (.block [.declare ["x"]])) := by
  have alone : Rule.standalone.parse ⟨"\x7d", 1⟩ ["\x7d", "x"] = .ok (.declare ["x"]) := rfl
  have refused : parseProgram ⟨"\x7d", 2⟩
      ("\x7b" :: withoutSeparator ["\x7d", "x"] ++ [";", "\x7d"]) =
        .error ⟨.unexpectedToken, .expected .programEnd, 2, some "x"⟩ := rfl
  intro agree
  have parsed := agree.mp alone
  rw [refused] at parsed
  cases parsed

end BlockLang
