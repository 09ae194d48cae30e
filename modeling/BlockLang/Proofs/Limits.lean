import BlockLang.Proofs.Independence

/-!
# Limits

A smaller limit of levels only adds errors of nesting. Whatever a rule does without such an error it
does under every larger limit too: it gives the same tree or the same error, and leaves the cursor
at the same place. Nor is an error of nesting ever hidden behind another one, since a comparison
that nests too deep is reported farther on than the group that was given up for it.
-/

namespace BlockLang

namespace Grammar

variable {settings settings' : Settings} {levels : Nat} {start : State}

/-- What allows at least as many levels widens what allows fewer, below any number of levels that
have been taken. -/
theorem Widens.of_le (keyword : settings'.keyword = settings.keyword)
    (le : settings.maxDepth ≤ settings'.maxDepth) (depth : Nat) :
    Widens False settings (settings.maxDepth - depth) settings' (settings'.maxDepth - depth) :=
  ⟨keyword, Nat.sub_le_sub_right le depth, False.elim⟩

/-- An atom reports where a comparison nests too deep, whatever the group reports. -/
theorem outcome_atom_of_tooDeep (deep : TooDeep (comparison settings levels) start) :
    (outcome (atom settings levels) start).1 = (outcome (comparison settings levels) start).1 := by
  obtain ⟨error, finish, compared, kind⟩ := tooDeep_iff.mp deep
  obtain ⟨stop, run⟩ := (exclusive settings levels).atom_of_tooDeep compared kind
  rw [outcome_of_error compared, outcome_of_error run]

end Grammar

open Grammar

/-- What a call of a rule gives is the outcome of the rule at the state of the session. -/
theorem Session.call_eq (session : Session) (rule : Rule) :
    (session.call rule).1 = (outcome (rule.run session.settings) session.state).1 := by
  unfold Session.call
  cases run : (rule.run session.settings).run session.state with
  | ok parsed state => rw [outcome_of_ok run]
  | error error state => rw [outcome_of_error run]

theorem parseProgram_eq (settings : Settings) (tokens : List Token) :
    parseProgram settings tokens =
      (outcome (Rule.program.run settings) (Session.ofTokens settings tokens).state).1.map
        Parsed.toTree := by
  rw [parseProgram, Rule.parse, Session.call_eq]
  rfl

/-- Under a larger limit every rule, and every part of a condition below any number of levels that
have been taken, has the outcome that it has under a smaller one, unless it nests too deep there. A
comparison that nests too deep is what its atom reports. So a program that does not nest too deep
has the same tree or the same error under all larger limits. -/
theorem outcome_eq_of_maxDepth_le {settings settings' : Settings}
    (keyword : settings'.keyword = settings.keyword)
    (le : settings.maxDepth ≤ settings'.maxDepth) :
    (∀ (rule : Rule) (start : State), ¬ TooDeep (rule.run settings) start →
      outcome (rule.run settings') start = outcome (rule.run settings) start) ∧
    (∀ (part : ConditionPart) (depth : Nat) (start : State),
      ¬ TooDeep (part.rule settings (settings.maxDepth - depth)) start →
      outcome (part.rule settings' (settings'.maxDepth - depth)) start =
        outcome (part.rule settings (settings.maxDepth - depth)) start) ∧
    (∀ (depth : Nat) (start : State),
      TooDeep (comparison settings (settings.maxDepth - depth)) start →
      (outcome (atom settings (settings.maxDepth - depth)) start).1 =
        (outcome (comparison settings (settings.maxDepth - depth)) start).1) ∧
    ∀ tokens : List Token,
      (∀ error, parseProgram settings tokens = .error error → error.kind ≠ .nestingTooDeep) →
      parseProgram settings' tokens = parseProgram settings tokens := by
  have rules (rule : Rule) (start : State) (shallow : ¬ TooDeep (rule.run settings) start) :
      outcome (rule.run settings') start = outcome (rule.run settings) start :=
    Tracks.outcome_eq (Rule.run_tracks (.of_le keyword le 0) rule) rfl shallow
  refine ⟨rules, fun part depth start shallow => ?_, fun depth start => outcome_atom_of_tooDeep,
    fun tokens shallow => ?_⟩
  · exact Tracks.outcome_eq (part.rule_tracks (.of_le keyword le depth)) rfl shallow
  · rw [parseProgram_eq, parseProgram_eq] at *
    have opened :
        (Session.ofTokens settings' tokens).state = (Session.ofTokens settings tokens).state := rfl
    rw [opened, rules .program]
    rintro ⟨error, given, deep⟩
    exact shallow error (by rw [given]; rfl) deep

/-- The parenthesis is the third level, and the separator before it is closed is refused under both
limits. -/
theorem outcome_eq_of_maxDepth_le_unclosed :
    parseProgram ⟨"let", 3⟩ ["\x7b", "x", "=", "(", "1", ";", "\x7d"] =
        .error ⟨.unexpectedToken, .expected .closeOperand, 5, some ";"⟩ ∧
      parseProgram ⟨"let", 256⟩ ["\x7b", "x", "=", "(", "1", ";", "\x7d"] =
        .error ⟨.unexpectedToken, .expected .closeOperand, 5, some ";"⟩ := by
  have refused : parseProgram ⟨"let", 3⟩ ["\x7b", "x", "=", "(", "1", ";", "\x7d"] =
      .error ⟨.unexpectedToken, .expected .closeOperand, 5, some ";"⟩ := rfl
  have widened := @outcome_eq_of_maxDepth_le ⟨"let", 3⟩ ⟨"let", 256⟩ rfl (by decide)
  refine ⟨refused, (widened.2.2.2 _ ?_).trans refused⟩
  intro error given
  rw [refused] at given
  cases given
  decide

end BlockLang
