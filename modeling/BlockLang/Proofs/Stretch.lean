import BlockLang.Grammar.Rule

/-!
# Stretches of tokens

A rule that succeeds moves the cursor over a stretch of tokens, and a rule that fails names the
token behind a stretch of them. Both are said of the tokens to come, so that they compose by
appending.
-/

namespace BlockLang

namespace Cursor

/-- The second cursor stands behind the given tokens of the first, over the same array. -/
structure Reads (start : Cursor) (tokens : List Token) (finish : Cursor) : Prop where
  same : finish.tokens = start.tokens
  rest : start.rest = tokens ++ finish.rest

/-- The cursor goes on with the given tokens and then with the given one, or with the end. -/
def Continues (cursor : Cursor) (tokens : List Token) (next : Option Token) : Prop :=
  ∃ rest, cursor.rest = tokens ++ rest ∧ rest.head? = next

namespace Reads

theorem refl (cursor : Cursor) : cursor.Reads [] cursor := ⟨rfl, rfl⟩

/-- Stretches that follow each other join. -/
theorem trans {start middle finish : Cursor} {first second : List Token}
    (reads : start.Reads first middle) (further : middle.Reads second finish) :
    start.Reads (first ++ second) finish := by
  refine ⟨further.same.trans reads.same, ?_⟩
  rw [reads.rest, further.rest, List.append_assoc]

/-- The position grows by the length of the stretch. -/
theorem position_eq {start finish : Cursor} {tokens : List Token}
    (reads : start.Reads tokens finish) :
    finish.position = start.position + tokens.length := by
  have before := start.position_add_remaining
  have behind := finish.position_add_remaining
  have lengths := congrArg List.length reads.rest
  rw [reads.same] at behind
  simp only [length_rest, List.length_append] at lengths
  omega

theorem position_le {start finish : Cursor} {tokens : List Token}
    (reads : start.Reads tokens finish) : start.position ≤ finish.position := by
  rw [reads.position_eq]
  exact Nat.le_add_right _ _

theorem remaining_le {start finish : Cursor} {tokens : List Token}
    (reads : start.Reads tokens finish) : finish.remaining ≤ start.remaining := by
  rw [← length_rest, ← length_rest, reads.rest, List.length_append]
  exact Nat.le_add_left _ _

/-- A cursor is determined by the stretch that leads to it. -/
theorem finish_eq {start finish finish' : Cursor} {tokens : List Token}
    (reads : start.Reads tokens finish) (reads' : start.Reads tokens finish') :
    finish = finish' := by
  have positions : finish.position = finish'.position :=
    reads.position_eq.trans reads'.position_eq.symm
  have arrays : finish.tokens = finish'.tokens := reads.same.trans reads'.same.symm
  cases finish
  cases finish'
  simp_all

/-- A stretch is determined by the cursors at its ends. -/
theorem tokens_eq {start finish : Cursor} {tokens tokens' : List Token}
    (reads : start.Reads tokens finish) (reads' : start.Reads tokens' finish) :
    tokens = tokens' :=
  List.append_cancel_right (reads.rest.symm.trans reads'.rest)

theorem continues {start finish : Cursor} {tokens : List Token}
    (reads : start.Reads tokens finish) : start.Continues tokens finish.peek :=
  ⟨finish.rest, reads.rest, head?_rest finish⟩

end Reads

theorem rest_eq_cons {cursor : Cursor} {token : Token} (front : cursor.peek = some token) :
    cursor.rest = token :: cursor.next.rest := by
  rw [rest_next]
  rw [← head?_rest, List.head?_eq_some_iff] at front
  obtain ⟨tail, split⟩ := front
  rw [split, List.tail_cons]

theorem rest_eq_nil {cursor : Cursor} (ended : cursor.peek = none) : cursor.rest = [] := by
  rw [← head?_rest] at ended
  exact List.head?_eq_none_iff.mp ended

/-- The cursor after the front token stands behind it. -/
theorem reads_next {cursor : Cursor} {token : Token} (front : cursor.peek = some token) :
    cursor.Reads [token] cursor.next :=
  ⟨tokens_next cursor, rest_eq_cons front⟩

@[simp] theorem check_iff (cursor : Cursor) (lexeme : Token) :
    cursor.check lexeme = true ↔ cursor.peek = some lexeme := by
  simp [check]

namespace Continues

theorem nil_iff {cursor : Cursor} {next : Option Token} :
    cursor.Continues [] next ↔ cursor.peek = next := by
  simp [Continues]

theorem cons_iff {cursor : Cursor} {token : Token} {tokens : List Token} {next : Option Token} :
    cursor.Continues (token :: tokens) next ↔
      cursor.peek = some token ∧ cursor.next.Continues tokens next := by
  constructor
  · rintro ⟨rest, split, head⟩
    have front : cursor.peek = some token := by rw [← head?_rest, split]; rfl
    have tail := split
    rw [rest_eq_cons front, List.cons_append, List.cons.injEq] at tail
    exact ⟨front, rest, tail.2, head⟩
  · rintro ⟨front, rest, split, head⟩
    exact ⟨rest, by rw [rest_eq_cons front, split, List.cons_append], head⟩

theorem front {cursor : Cursor} {token : Token} {tokens : List Token} {next : Option Token}
    (continues : cursor.Continues (token :: tokens) next) : cursor.peek = some token :=
  (cons_iff.mp continues).1

/-- What follows the first part of a stretch is what a cursor behind that part stands at. -/
theorem left {cursor middle : Cursor} {first second : List Token} {next : Option Token}
    (whole : cursor.Continues (first ++ second) next) (part : middle.Continues second next) :
    cursor.Continues first middle.peek := by
  obtain ⟨rest, split, head⟩ := whole
  obtain ⟨rest', split', head'⟩ := part
  refine ⟨second ++ rest, by rw [split, List.append_assoc], ?_⟩
  rw [← head?_rest, split', List.head?_append, List.head?_append, head, head']

/-- Behind the first part of a stretch the cursor goes on with the second. -/
theorem right {cursor middle : Cursor} {first second : List Token} {next : Option Token}
    (whole : cursor.Continues (first ++ second) next) (reads : cursor.Reads first middle) :
    middle.Continues second next := by
  obtain ⟨rest, split, head⟩ := whole
  rw [reads.rest, List.append_assoc] at split
  exact ⟨rest, List.append_cancel_left split, head⟩

/-- Behind a stretch stands the token that follows it. -/
theorem peek_of_reads {cursor finish : Cursor} {tokens : List Token} {next : Option Token}
    (continues : cursor.Continues tokens next) (reads : cursor.Reads tokens finish) :
    finish.peek = next := by
  obtain ⟨rest, split, head⟩ := continues
  rw [reads.rest] at split
  rw [← head?_rest, List.append_cancel_left split, head]

/-- Two stretches that go on alike begin alike. -/
theorem peek_eq {cursor cursor' : Cursor} {tokens : List Token} {next : Option Token}
    (continues : cursor.Continues tokens next) (continues' : cursor'.Continues tokens next) :
    cursor'.peek = cursor.peek := by
  obtain ⟨rest, split, head⟩ := continues
  obtain ⟨rest', split', head'⟩ := continues'
  rw [← head?_rest, ← head?_rest, split, split', List.head?_append, List.head?_append, head, head']

/-- Where one cursor goes on like another, it does so over every shorter stretch. -/
theorem narrow {cursor cursor' : Cursor} {tokens shorter : List Token} {next next' : Option Token}
    (whole : cursor.Continues tokens next) (part : cursor.Continues shorter next')
    (length_le : shorter.length ≤ tokens.length) (agree : cursor'.Continues tokens next) :
    cursor'.Continues shorter next' := by
  obtain ⟨rest, split, head⟩ := whole
  obtain ⟨rest', split', head'⟩ := part
  have inside : shorter <+: tokens :=
    List.prefix_of_prefix_length_le ⟨rest', split'.symm⟩ ⟨rest, split.symm⟩ length_le
  obtain ⟨more, rfl⟩ := inside
  obtain ⟨rest'', split'', head''⟩ := agree
  refine ⟨more ++ rest'', by rw [split'', List.append_assoc], ?_⟩
  rw [split, List.append_assoc] at split'
  rw [← head', ← List.append_cancel_left split', List.head?_append, List.head?_append, head, head'']

/-- Behind a stretch a cursor goes on as the rest does. -/
theorem append {cursor middle : Cursor} {first second : List Token} {next : Option Token}
    (reads : cursor.Reads first middle) (part : middle.Continues second next) :
    cursor.Continues (first ++ second) next := by
  obtain ⟨rest, split, head⟩ := part
  exact ⟨rest, by rw [reads.rest, split, List.append_assoc], head⟩

end Continues

end Cursor

namespace SyntaxError

/-- The same error at another position. -/
def moved (error : SyntaxError) (position : Nat) : SyntaxError := { error with position }

/-- An error lies behind a stretch of tokens when its position is the one behind them and it names
the token there, or the end. -/
structure LiesBehind (error : SyntaxError) (tokens : List Token) (cursor : Cursor) : Prop where
  found : cursor.Continues tokens error.found
  position_eq : error.position = cursor.position + tokens.length

namespace LiesBehind

/-- An error raised at the cursor lies behind no tokens of it. -/
theorem errorAt (cursor : Cursor) (kind : ErrorKind) (cause : ErrorCause) :
    (Grammar.errorAt cursor kind cause).LiesBehind [] cursor :=
  ⟨Cursor.Continues.nil_iff.mpr rfl, rfl⟩

theorem append {error : SyntaxError} {start middle : Cursor} {first second : List Token}
    (reads : start.Reads first middle) (lies : error.LiesBehind second middle) :
    error.LiesBehind (first ++ second) start := by
  refine ⟨.append reads lies.found, ?_⟩
  rw [lies.position_eq, reads.position_eq, List.length_append, Nat.add_assoc]

/-- The tokens before an error are the first of those that remain. -/
theorem isPrefix {error : SyntaxError} {cursor : Cursor} {tokens : List Token}
    (lies : error.LiesBehind tokens cursor) : tokens <+: cursor.rest := by
  obtain ⟨rest, split, -⟩ := lies.found
  exact ⟨rest, split.symm⟩

/-- The stretch before an error is determined by where it begins. -/
theorem tokens_eq {error : SyntaxError} {cursor : Cursor} {tokens tokens' : List Token}
    (lies : error.LiesBehind tokens cursor) (lies' : error.LiesBehind tokens' cursor) :
    tokens = tokens' := by
  have lengths : tokens.length = tokens'.length := by
    have position := lies.position_eq
    have position' := lies'.position_eq
    omega
  exact (List.prefix_of_prefix_length_le lies.isPrefix lies'.isPrefix
    (Nat.le_of_eq lengths)).eq_of_length lengths

end LiesBehind

end SyntaxError

namespace Grammar

variable {α β : Type} {rule : RuleM α} {next : α → RuleM β} {start finish : State}

/-- A sequence that succeeds is two steps that succeed. -/
theorem run_bind_ok {value : β} (run : (rule >>= next).run start = .ok value finish) :
    ∃ between middle, rule.run start = .ok between middle ∧
      (next between).run middle = .ok value finish := by
  rw [EStateM.run_bind] at run
  cases head : rule.run start with
  | ok between middle =>
      rw [head] at run
      exact ⟨between, middle, rfl, run⟩
  | error error middle =>
      rw [head] at run
      cases run

/-- A sequence fails at its first step, or at its second after the first. -/
theorem run_bind_error {error : SyntaxError}
    (run : (rule >>= next).run start = .error error finish) :
    rule.run start = .error error finish ∨
      ∃ between middle, rule.run start = .ok between middle ∧
        (next between).run middle = .error error finish := by
  rw [EStateM.run_bind] at run
  cases head : rule.run start with
  | ok between middle =>
      rw [head] at run
      exact .inr ⟨between, middle, rfl, run⟩
  | error error' middle =>
      rw [head] at run
      cases run
      exact .inl rfl

theorem run_bind_of_ok {between : α} {middle : State} (run : rule.run start = .ok between middle) :
    (rule >>= next).run start = (next between).run middle := by
  rw [EStateM.run_bind, run]

theorem run_bind_of_error {error : SyntaxError} (run : rule.run start = .error error finish) :
    (rule >>= next).run start = .error error finish := by
  rw [EStateM.run_bind, run]

end Grammar

end BlockLang
