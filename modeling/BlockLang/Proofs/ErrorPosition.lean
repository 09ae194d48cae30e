import BlockLang.Proofs.Program

/-!
# Where the first error lies

Some tokens are viable when a program begins with them. An error that is not one of nesting lies
behind the longest viable beginning: what lies before it is completed to a derivation, and a program
that agreed with the input through the token of the error would be refused there too.
-/

namespace BlockLang

/-- Some tokens are viable when they go on to a program that is read under some limit. -/
def Viable (keyword : Token) (tokens : List Token) : Prop :=
  ∃ suffix maxDepth tree, parseProgram ⟨keyword, maxDepth⟩ (tokens ++ suffix) = .ok tree

namespace Grammar

variable {keyword : Token} {settings : Settings} {tokens : List Token} {error : SyntaxError}

/-- The viable tokens are those that begin a block. -/
theorem viable_iff_begins (fit : keyword.Fit) :
    Viable keyword tokens ↔ Begins keyword .block tokens := by
  constructor
  · rintro ⟨suffix, maxDepth, tree, parsed⟩
    obtain ⟨derivation, derived, -, -⟩ := exists_derivation_of_parseProgram parsed
    exact ⟨derivation, suffix, derived.symm⟩
  · rintro ⟨derivation, suffix, derived⟩
    refine ⟨suffix, derivation.depth, .block derivation.value, ?_⟩
    rw [derived]
    exact parseProgram_of_derivation fit derivation (Nat.le_refl _)

theorem Begins.of_prefix {symbol : Symbol} {shorter : List Token}
    (begins : Begins keyword symbol tokens) (part : shorter <+: tokens) :
    Begins keyword symbol shorter := by
  obtain ⟨derivation, whole⟩ := begins
  exact ⟨derivation, part.trans whole⟩

/-- An error of a program lies behind the tokens before its position, which begin a block, also with
a token that the error suggests. -/
theorem parseProgram_error_begins (refused : parseProgram settings tokens = .error error) :
    error.position ≤ tokens.length ∧
      error.LiesBehind (tokens.take error.position) (opening settings tokens).cursor ∧
      ∀ further, error.cause.Suggests settings.keyword further →
        Begins settings.keyword .block (tokens.take error.position ++ further) := by
  obtain ⟨finish, run⟩ := parseProgram_eq_error_iff.mp refused
  obtain ⟨seen, lies, begun⟩ := (program_sound settings settings.maxDepth _).error run
  have position := lies.position_eq
  have part := lies.isPrefix
  rw [rest_opening] at part
  rw [position_opening, Nat.zero_add] at position
  have same : tokens.take error.position = seen := by
    rw [position]
    exact (List.prefix_iff_eq_take.mp part).symm
  rw [same, position]
  exact ⟨part.length_le, lies, begun⟩

/-- No program agrees with refused tokens beyond the error. -/
theorem not_begins_beyond_error (fit : settings.keyword.Fit)
    (refused : parseProgram settings tokens = .error error) (shallow : error.kind ≠ .nestingTooDeep)
    {count : Nat} (inside : count ≤ tokens.length) (beyond : error.position < count) :
    ¬ Begins settings.keyword .block (tokens.take count) := by
  rintro ⟨derivation, more, derived⟩
  obtain ⟨finish, run⟩ := parseProgram_eq_error_iff.mp refused
  have accepted := parseProgram_of_derivation fit derivation
    (Nat.le_max_right settings.maxDepth derivation.depth)
  obtain ⟨finish', run'⟩ := parseProgram_eq_ok_iff.mp accepted
  have widens : Widens False settings settings.maxDepth
      ⟨settings.keyword, max settings.maxDepth derivation.depth⟩
      (max settings.maxDepth derivation.depth) :=
    ⟨rfl, Nat.le_max_left _ _, False.elim⟩
  obtain ⟨-, lies, -⟩ := parseProgram_error_begins refused
  obtain ⟨read, seen, reads, -, lies'⟩ := (program_tracks widens).lies run
  have agree : (opening ⟨settings.keyword, max settings.maxDepth derivation.depth⟩
      derivation.tokens).cursor.Continues (tokens.take error.position) error.found := by
    obtain ⟨rest, split, head⟩ := lies.found
    obtain ⟨extra, rfl⟩ := Nat.exists_eq_add_of_lt beyond
    rw [rest_opening] at split
    have behind : rest = tokens.drop error.position :=
      List.append_cancel_left (split.symm.trans (List.take_append_drop _ _).symm)
    refine ⟨rest.take (extra + 1) ++ more, ?_, ?_⟩
    · rw [rest_opening, ← derived, Nat.add_assoc, List.take_add, behind, List.append_assoc]
    · cases rest with
      | nil =>
          have lengths := congrArg List.length behind
          simp only [List.length_nil, List.length_drop] at lengths
          omega
      | cons token rest => exact head
  obtain ⟨finish'', run'', -⟩ := (program_tracks widens).follow_error run reads lies agree
    fun deep => absurd deep shallow
  rw [run'] at run''
  cases run''

end Grammar

/-- An error that is not one of nesting lies behind the longest viable beginning of the tokens. -/
theorem viable_take_iff_le_position {settings : Settings} (valid : settings.fault? = none)
    {tokens : List Token} {error : SyntaxError}
    (refused : parseProgram settings tokens = .error error)
    (shallow : error.kind ≠ .nestingTooDeep) :
    error.position ≤ tokens.length ∧
      ∀ count ≤ tokens.length,
        Viable settings.keyword (tokens.take count) ↔ count ≤ error.position := by
  have fit := settings.fault?_eq_none_iff_fit.mp valid
  obtain ⟨inside, -, begun⟩ := Grammar.parseProgram_error_begins refused
  refine ⟨inside, fun count within => ?_⟩
  rw [Grammar.viable_iff_begins fit]
  constructor
  · intro begins
    refine Nat.le_of_not_lt fun beyond => ?_
    exact Grammar.not_begins_beyond_error fit refused shallow within beyond begins
  · intro before
    have whole := begun [] (.nothing error.cause)
    rw [List.append_nil] at whole
    exact whole.of_prefix (List.take_prefix_take_left before)

/-- The group fails at the closing parenthesis and the comparison at the next, which is farther. -/
theorem viable_take_iff_le_position_default :
    Viable "DataType" ["\x7b", "if", "(", "(", "a", ")"] ∧
      ¬ Viable "DataType" ["\x7b", "if", "(", "(", "a", ")", ")"] := by
  have refused : parseProgram {} ["\x7b", "if", "(", "(", "a", ")", ")", "\x7b", "\x7d"] =
      .error ⟨.missingRelation, .expected .relation, 6, some ")"⟩ := rfl
  obtain ⟨-, boundary⟩ := viable_take_iff_le_position (by decide) refused (by decide)
  exact ⟨(boundary 6 (by decide)).mpr (by decide), mt (boundary 7 (by decide)).mp (by decide)⟩

end BlockLang
