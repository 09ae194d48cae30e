import BlockLang.Proofs.Refusal

/-!
# What errors tell of the tokens

An error names the token at its position, which is one of the tokens that the call was given or
their end and lies no nearer than where the call stopped. Its kind tells what token it is: errors at
the end have kinds of their own, and a kind that speaks of a separator, a name or a relation is not
given to a token that is one.
-/

namespace BlockLang

/-- The token that an error names stands at its position, and its kind tells what token it is. -/
structure SyntaxError.Describes (error : SyntaxError) (keyword : Token) (tokens : Array Token) :
    Prop where
  found : error.found = tokens[error.position]?
  absent : error.found = none →
    error.kind = .endOfInput ∨ error.kind = .unterminatedBlock ∨ error.kind = .nestingTooDeep
  ended : error.kind = .endOfInput → error.found = none
  separator : error.kind = .missingSeparator → ∃ token, error.found = some token ∧ token ≠ ";"
  named : error.kind = .invalidIdentifier ∨ error.kind = .invalidTarget →
    ∃ token, error.found = some token ∧ token.isName keyword = false
  related : error.kind = .missingRelation → ∃ token, error.found = some token ∧
    ∀ operator : Operator, operator.isRelational = true ∨ operator.isArithmetic = true →
      token ≠ operator.text

namespace Expectation

variable {expectation : Expectation} {found : Option Token}

theorem kind_none (expectation : Expectation) :
    expectation.kind none = .endOfInput ∨ expectation.kind none = .unterminatedBlock := by
  cases expectation <;> first | exact .inl rfl | exact .inr rfl

theorem found_of_kind_endOfInput (ended : expectation.kind found = .endOfInput) : found = none := by
  cases found with
  | none => rfl
  | some token => cases expectation <;> cases ended

theorem eq_separator_of_kind (kind : expectation.kind found = .missingSeparator) :
    expectation = .separator ∧ ∃ token, found = some token := by
  cases found <;> cases expectation <;> cases kind
  exact ⟨rfl, _, rfl⟩

theorem eq_name_of_kind
    (kind : expectation.kind found = .invalidIdentifier ∨ expectation.kind found = .invalidTarget) :
    (expectation = .identifier ∨ expectation = .target) ∧ ∃ token, found = some token := by
  cases found <;> cases expectation <;> rcases kind with kind | kind <;> cases kind
  · exact ⟨.inl rfl, _, rfl⟩
  · exact ⟨.inr rfl, _, rfl⟩

theorem eq_relation_of_kind (kind : expectation.kind found = .missingRelation) :
    expectation = .relation ∧ ∃ token, found = some token := by
  cases found <;> cases expectation <;> cases kind
  exact ⟨rfl, _, rfl⟩

end Expectation

/-- A justified error describes the tokens that it was raised on. -/
theorem SyntaxError.Justified.describes {error : SyntaxError} {keyword : Token}
    {tokens : Array Token} (found : error.found = tokens[error.position]?)
    (justified : error.Justified keyword fun expectation =>
      expectation.IsInner keyword ∨ expectation.IsEnd) :
    error.Describes keyword tokens := by
  cases justified with
  | @unfit expectation position front admitted other =>
      refine ⟨found, ?_, Expectation.found_of_kind_endOfInput, ?_, ?_, ?_⟩
      · rintro (rfl : front = none)
        exact expectation.kind_none.imp_right .inl
      · intro kind
        obtain ⟨rfl, token, rfl⟩ := Expectation.eq_separator_of_kind kind
        exact ⟨token, rfl, other token rfl⟩
      · intro kind
        obtain ⟨name, token, rfl⟩ := Expectation.eq_name_of_kind kind
        refine ⟨token, rfl, Bool.eq_false_iff.mpr ?_⟩
        rcases name with rfl | rfl <;> exact other token rfl
      · intro kind
        obtain ⟨rfl, -⟩ := Expectation.eq_relation_of_kind kind
        rcases admitted with inner | ending | ending
        · exact inner.elim
        · cases ending
        · cases ending
  | @relation position front other =>
      cases front with
      | none =>
          refine ⟨found, fun _ => .inl rfl, fun _ => rfl, nofun, ?_, nofun⟩
          rintro (kind | kind) <;> cases kind
      | some token =>
          refine ⟨found, nofun, nofun, nofun, ?_, fun _ => ⟨token, rfl, ?_⟩⟩
          · rintro (kind | kind) <;> cases kind
          · exact fun operator either same => other operator either (congrArg some same)
  | integer => exact ⟨found, nofun, nofun, nofun, by simp, nofun⟩
  | float => exact ⟨found, nofun, nofun, nofun, by simp, nofun⟩
  | nesting => exact ⟨found, fun _ => .inr (.inr rfl), nofun, nofun, by simp, nofun⟩

namespace Grammar

/-- The token behind a stretch stands at the index behind it. -/
theorem getElem?_of_liesBehind {error : SyntaxError} {seen : List Token} {cursor : Cursor}
    (lies : error.LiesBehind seen cursor) :
    error.found = cursor.tokens[error.position]? := by
  obtain ⟨rest, split, head⟩ := lies.found
  rw [lies.position_eq, ← head, ← Array.getElem?_toList, ← List.getElem?_drop]
  change rest.head? = cursor.rest[seen.length]?
  rw [split, List.getElem?_append_right (Nat.le_refl _), Nat.sub_self, List.head?_eq_getElem?]

/-- A call that fails leaves the tokens as they are and the cursor between its start and the error,
which lies at one of the tokens or at their end and describes them. -/
theorem Call.error_describes (settings : Settings) (levels : Nat) (call : Call) (start : State)
    {error : SyntaxError} {finish : State}
    (refused : (call.rule settings levels).run start = .error error finish) :
    finish.cursor.tokens = start.cursor.tokens ∧
      start.cursor.position ≤ finish.cursor.position ∧
      finish.cursor.position ≤ error.position ∧
      error.position ≤ start.cursor.tokens.size ∧
      error.Describes settings.keyword start.cursor.tokens := by
  have tracks : Local (call.rule settings levels) := call.rule_tracks (.refl settings levels)
  obtain ⟨read, seen, reads, part, lies⟩ := tracks.lies refused
  have justified := call.justifies settings levels start error finish refused
  have inside := lies.isPrefix.length_le
  have whole := start.cursor.position_add_remaining
  have shorter := part.length_le
  rw [Cursor.length_rest] at inside
  refine ⟨reads.same, reads.position_le, ?_, ?_, justified.describes (getElem?_of_liesBehind lies)⟩
  · rw [reads.position_eq, lies.position_eq]
    omega
  · rw [lies.position_eq]
    omega

/-- The group is refused at the separator and then the comparison at the relation, which is nearer.
So the error of the group is kept, and the cursor stands where the comparison stopped. -/
theorem Call.error_describes_group :
    ∃ finish, (Call.condition.rule {} 1).run
        ⟨⟨#["\x7b", "if", "(", "(", "a", "<", "1", ";"], 3, by decide⟩, #[]⟩ =
          .error ⟨.unexpectedToken, .expected .closeGroup, 7, some ";"⟩ finish ∧
      finish.cursor.position = 5 ∧
      finish.cursor.tokens = #["\x7b", "if", "(", "(", "a", "<", "1", ";"] ∧
      SyntaxError.Describes ⟨.unexpectedToken, .expected .closeGroup, 7, some ";"⟩ "DataType"
        #["\x7b", "if", "(", "(", "a", "<", "1", ";"] := by
  obtain ⟨finish, refused, stopped⟩ : ∃ finish, (Call.condition.rule {} 1).run
      ⟨⟨#["\x7b", "if", "(", "(", "a", "<", "1", ";"], 3, by decide⟩, #[]⟩ =
        .error ⟨.unexpectedToken, .expected .closeGroup, 7, some ";"⟩ finish ∧
      finish.cursor.position = 5 := ⟨_, rfl, rfl⟩
  obtain ⟨same, -, -, -, described⟩ := Call.error_describes {} 1 .condition _ refused
  exact ⟨finish, refused, stopped, same, described⟩

end Grammar

end BlockLang
