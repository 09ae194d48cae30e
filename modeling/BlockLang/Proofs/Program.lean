import BlockLang.Proofs.Acceptance
import BlockLang.Proofs.Soundness

/-!
# Programs

A program is read exactly when its tokens are derived within the limit, and then as the tree of the
derivation. Since a rule gives one outcome, no tokens derive two trees.
-/

namespace BlockLang

namespace Grammar

variable {settings settings' : Settings} {tokens : List Token} {tree : Tree} {error : SyntaxError}

/-! ## Running the rule of programs -/

/-- The state at which a program is read. -/
def opening (settings : Settings) (tokens : List Token) : State :=
  (Session.ofTokens settings tokens).state

@[simp] theorem rest_opening (settings : Settings) (tokens : List Token) :
    (opening settings tokens).cursor.rest = tokens :=
  Cursor.rest_ofList tokens

@[simp] theorem position_opening (settings : Settings) (tokens : List Token) :
    (opening settings tokens).cursor.position = 0 := rfl

/-- A rule that gives a tree is run at the state of the tokens. -/
theorem parse_eq_ok_iff {rule : Rule} {inner : RuleM Tree}
    (same : rule.run settings = .tree <$> inner) :
    rule.parse settings tokens = .ok tree ↔
      ∃ finish, inner.run (opening settings tokens) = .ok tree finish := by
  have opened : (Session.ofTokens settings tokens).state = opening settings tokens := rfl
  have settled : (Session.ofTokens settings tokens).settings = settings := rfl
  rw [Rule.parse, Session.call, settled, opened, same, map_eq_pure_bind, EStateM.run_bind]
  cases inner.run (opening settings tokens) with
  | ok value finish => simp [Except.map, Parsed.toTree]
  | error error finish => simp [Except.map]

theorem parseProgram_eq_ok_iff :
    parseProgram settings tokens = .ok tree ↔
      ∃ finish, (program settings settings.maxDepth).run (opening settings tokens) =
        .ok tree finish :=
  parse_eq_ok_iff rfl

theorem parseProgram_eq_error_iff :
    parseProgram settings tokens = .error error ↔
      ∃ finish, (program settings settings.maxDepth).run (opening settings tokens) =
        .error error finish := by
  have opened : (Session.ofTokens settings tokens).state = opening settings tokens := rfl
  have same : (Session.ofTokens settings tokens).settings = settings := rfl
  rw [parseProgram, Rule.parse, Session.call, Rule.run, same, opened, map_eq_pure_bind,
    EStateM.run_bind]
  cases (program settings settings.maxDepth).run (opening settings tokens) with
  | ok value finish => simp [Except.map]
  | error error finish => simp [Except.map]

/-! ## Derived programs are read -/

variable {keyword : Token} {levels : Nat}

/-- A block with nothing behind it is read as a program. -/
theorem program_yields {statements : List Tree}
    (whole : Handles (block settings levels) (fun _ => True) tokens statements) {start : State}
    (continues : start.cursor.Continues tokens none) :
    Yields (program settings levels) start tokens (.block statements) := by
  refine .skip continues ⟨start, rfl, .refl _⟩ fun middle continues => ?_
  refine .skip continues (.of_leave (record_decides _) rfl) fun middle continues => ?_
  rw [← List.append_nil tokens] at continues ⊢
  refine whole.append continues fun middle continues => ?_
  have ended := Cursor.Continues.nil_iff.mp continues
  exact .skip continues (.requireEnd .programEnd ended) fun middle _ => .pure _ middle

theorem parseProgram_of_handles {statements : List Tree}
    (whole : Handles (block settings settings.maxDepth) (fun _ => True) tokens statements) :
    parseProgram settings tokens = .ok (.block statements) := by
  have continues : (opening settings tokens).cursor.Continues tokens none := ⟨[], by simp, rfl⟩
  obtain ⟨finish, run, -⟩ := program_yields whole continues
  exact parseProgram_eq_ok_iff.mpr ⟨finish, run⟩

/-- The tokens of a derivation are read as its tree if the limit suffices. -/
theorem parseProgram_of_derivation (fit : keyword.Fit) (derivation : Derivation keyword .block)
    {maxDepth : Nat} (fits : derivation.depth ≤ maxDepth) :
    parseProgram ⟨keyword, maxDepth⟩ derivation.tokens = .ok (.block derivation.value) :=
  parseProgram_of_handles (derivation.handled fit rfl fits)

/-! ## What is read is a derived program -/

theorem program_sound (settings : Settings) (levels : Nat) (start : State) :
    Conforms settings.keyword (program settings levels) start
      (fun tokens tree => ∃ derivation : Derivation settings.keyword .block,
        derivation.tokens = tokens ∧ Tree.block derivation.value = tree ∧
          derivation.depth ≤ levels)
      (Begins settings.keyword .block) := by
  refine .remaining (.bind (.of_leave (record_decides _)) ?_)
  rintro tokens value middle - rfl
  apply Conforms.bind ((statement_block_sound settings levels).2 middle)
  rintro tokens value middle - ⟨derivation, rfl, rfl, fits⟩
  refine .bind (.requireEnd ?_) ?_
  · rintro further (_ | ⟨⟨⟩⟩)
    exact ⟨derivation, by simp⟩
  rintro tokens value middle - rfl
  exact .pure ⟨derivation, by simp, rfl, fits⟩

/-- A program ends with the input. -/
theorem peek_of_program {start finish : State}
    (run : (program settings levels).run start = .ok tree finish) : finish.cursor.peek = none := by
  rw [program] at run
  obtain ⟨_, _, -, run⟩ := run_bind_ok run
  obtain ⟨_, _, -, run⟩ := run_bind_ok run
  obtain ⟨_, _, -, run⟩ := run_bind_ok run
  obtain ⟨_, last, ended, run⟩ := run_bind_ok run
  cases run
  obtain ⟨front, same⟩ := peek_of_requireEnd ended
  rw [same, front]

/-- What is read as a program is derived within the limit. -/
theorem exists_derivation_of_parseProgram (parsed : parseProgram settings tokens = .ok tree) :
    ∃ derivation : Derivation settings.keyword .block, derivation.tokens = tokens ∧
      Tree.block derivation.value = tree ∧ derivation.depth ≤ settings.maxDepth := by
  obtain ⟨finish, run⟩ := parseProgram_eq_ok_iff.mp parsed
  obtain ⟨read, reads, derivation, rfl, same, fits⟩ :=
    (program_sound settings settings.maxDepth _).ok run
  refine ⟨derivation, ?_, same, fits⟩
  have whole := reads.rest
  rw [rest_opening, Cursor.rest_eq_nil (peek_of_program run), List.append_nil] at whole
  exact whole.symm

/-- A program is read exactly when its tokens are derived within the limit. -/
theorem parseProgram_eq_ok_iff_derivation (fit : settings.keyword.Fit) :
    parseProgram settings tokens = .ok tree ↔
      ∃ derivation : Derivation settings.keyword .block, derivation.tokens = tokens ∧
        Tree.block derivation.value = tree ∧ derivation.depth ≤ settings.maxDepth := by
  constructor
  · exact exists_derivation_of_parseProgram
  · rintro ⟨derivation, rfl, rfl, fits⟩
    exact parseProgram_of_derivation fit derivation fits

/-- No tokens derive two programs. -/
theorem value_eq_of_tokens_eq (fit : keyword.Fit)
    {derivation derivation' : Derivation keyword .block}
    (same : derivation.tokens = derivation'.tokens) : derivation.value = derivation'.value := by
  have left := parseProgram_of_derivation fit derivation
    (Nat.le_max_left derivation.depth derivation'.depth)
  have right := parseProgram_of_derivation fit derivation'
    (Nat.le_max_right derivation.depth derivation'.depth)
  rw [same, right] at left
  exact (Tree.block.inj (Except.ok.inj left)).symm

end Grammar

/-- For a keyword that is fit for use, the programs that are read under some limit are those that
the grammar derives, as the trees of their derivations, and no tokens derive two trees. -/
theorem parseProgram_exact {settings : Settings} (valid : settings.fault? = none)
    (tokens : List Token) :
    (∀ tree, (∃ maxDepth, parseProgram { settings with maxDepth } tokens = .ok tree) ↔
      ∃ derivation : Grammar.Derivation settings.keyword .block, derivation.tokens = tokens ∧
        Tree.block derivation.value = tree) ∧
    ∀ derivation derivation' : Grammar.Derivation settings.keyword .block,
      derivation.tokens = tokens → derivation'.tokens = tokens →
        derivation.value = derivation'.value := by
  have fit := settings.fault?_eq_none_iff_fit.mp valid
  have limited (maxDepth : Nat) (tree : Tree) :=
    @Grammar.parseProgram_eq_ok_iff_derivation { settings with maxDepth } tokens tree fit
  refine ⟨fun tree => ⟨?_, ?_⟩, ?_⟩
  · rintro ⟨maxDepth, parsed⟩
    obtain ⟨derivation, derived, same, -⟩ := (limited maxDepth tree).mp parsed
    exact ⟨derivation, derived, same⟩
  · rintro ⟨derivation, derived, same⟩
    exact ⟨derivation.depth,
      (limited derivation.depth tree).mpr ⟨derivation, derived, same, Nat.le_refl _⟩⟩
  · intro derivation derivation' derived derived'
    exact Grammar.value_eq_of_tokens_eq fit (derived.trans derived'.symm)

theorem parseProgram_exact_default :
    ({} : Settings).fault? = none ∧
      ∃ derivation : Grammar.Derivation "DataType" .block,
        derivation.tokens = ["\x7b", "if", "(", "(", "a", ")", "<", "1", ")", "\x7b", "\x7d", ";",
          "\x7d"] ∧
        Tree.block derivation.value = .block [.ifThen (.binary .less (.var "a") (.int 1)) []] :=
  have valid : ({} : Settings).fault? = none := by decide
  ⟨valid, ((parseProgram_exact valid _).1 _).mp ⟨256, rfl⟩⟩

end BlockLang
