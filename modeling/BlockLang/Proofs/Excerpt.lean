import BlockLang.Diagnostic
import BlockLang.Proofs.Description
import BlockLang.Proofs.Words

/-!
# The carets stand under the offending token

The line of an excerpt consists of the tokens around the position of an error with single spaces
between them, and dots where tokens are left out. So the text before the offending token is as long
as the margin of the carets, and there are as many carets as the token has characters. At the end
of the input one caret stands behind the line.
-/

namespace BlockLang

namespace Excerpt

/-! ## What is shown -/

/-- The tokens that stand no farther from a position than is shown. -/
def shown (tokens : List Token) (position : Nat) : List Token :=
  (tokens.zipIdx.filter fun entry =>
    position ≤ entry.2 + contextTokens && entry.2 ≤ position + contextTokens).map Prod.fst

/-- Dots in place of tokens that are left out, if there are any. -/
def dots (left : Bool) : List Token := if left then ["..."] else []

/-- An excerpt shows the tokens around a position, and its carets mark the token there or, at the
end, the place behind all of them. -/
structure Marks (excerpt : Excerpt) (tokens : List Token) (position : Nat) : Prop where
  line_eq : excerpt.line = " ".intercalate
    (dots (contextTokens < position) ++ shown tokens position ++
      dots (position + contextTokens + 1 < tokens.length))
  under : ∀ token, tokens[position]? = some token →
    excerpt.caretWidth = token.length ∧
      (excerpt.line.toList.drop excerpt.caretColumn).take excerpt.caretWidth = token.toList
  behind : position = tokens.length →
    excerpt.caretColumn = excerpt.line.length + 1 ∧ excerpt.caretWidth = 1

/-- What lies between two indices of an enumeration that begins at some number. -/
theorem filter_zipIdx (tokens : List Token) (first start stop : Nat) :
    ((tokens.zipIdx first).filter fun entry => start ≤ entry.2 && entry.2 < stop).map Prod.fst =
      (tokens.take (stop - first)).drop (start - first) := by
  induction tokens generalizing first with
  | nil => simp
  | cons token tokens ih =>
      rw [List.zipIdx_cons, List.filter_cons]
      by_cases before : first < stop
      · obtain ⟨count, later⟩ : ∃ count, stop - first = count + 1 := ⟨stop - first - 1, by omega⟩
        have fewer : stop - (first + 1) = count := by omega
        by_cases inside : start ≤ first
        · have none : start - first = 0 := by omega
          have none' : start - (first + 1) = 0 := by omega
          simp [before, inside, ih, later, fewer, none, none']
        · obtain ⟨skipped, more⟩ : ∃ skipped, start - first = skipped + 1 :=
            ⟨start - first - 1, by omega⟩
          have fewer' : start - (first + 1) = skipped := by omega
          simp [inside, ih, later, fewer, more, fewer']
      · have none : stop - first = 0 := by omega
        have none' : stop - (first + 1) = 0 := by omega
        simp [before, ih, none, none']

theorem shown_eq (tokens : List Token) (position : Nat) :
    shown tokens position =
      (tokens.take (position + contextTokens + 1)).drop (position - contextTokens) := by
  have whole := filter_zipIdx tokens 0 (position - contextTokens) (position + contextTokens + 1)
  rw [Nat.sub_zero, Nat.sub_zero] at whole
  rw [shown, ← whole]
  congr 2
  funext entry
  simp only [Nat.lt_succ_iff, Nat.sub_le_iff_le_add]

/-- The part that is shown lies within the tokens. -/
theorem part?_eq_shown {tokens : List Token} {position : Nat} (inside : position ≤ tokens.length) :
    part? tokens (position - contextTokens)
        (min (position + contextTokens + 1) tokens.length) = some (shown tokens position) := by
  have order : position - contextTokens ≤ min (position + contextTokens + 1) tokens.length := by
    omega
  rw [part?_of_le order (Nat.min_le_right _ _), shown_eq, ← List.take_eq_take_min]

/-! ## The line -/

theorem spaced_append (first second : List Token) :
    spaced (first ++ second) = spaced first ++ spaced second := by
  simp [spaced]

theorem spaced_cons (token : Token) (tokens : List Token) :
    spaced (token :: tokens) = token ++ " " ++ spaced tokens := by
  simp [spaced]

/-- Spaces stand between texts as they stand behind each of those before the last part. -/
theorem intercalate_append_cons (before : List Token) (token : Token) (behind : List Token) :
    " ".intercalate (before ++ token :: behind) =
      spaced before ++ " ".intercalate (token :: behind) := by
  induction before with
  | nil => rfl
  | cons first before ih =>
      rw [List.cons_append, String.intercalate_cons_of_ne_nil (by simp), ih, spaced_cons,
        String.append_assoc, String.append_assoc, String.append_assoc]

theorem intercalate_cons (token : Token) (behind : List Token) :
    ∃ text, " ".intercalate (token :: behind) = token ++ text := by
  cases behind with
  | nil => exact ⟨"", by rw [String.intercalate_singleton, String.append_empty]⟩
  | cons second behind =>
      exact ⟨" " ++ " ".intercalate (second :: behind), by
        rw [String.intercalate_cons_cons, String.append_assoc]⟩

/-- Nothing is trimmed off a text that ends in no blank. -/
theorem trimEnd_eq_self {text : String} (free : Text.endsBlank text = false) :
    Text.trimEnd text = text := by
  have last : ∀ c ∈ text.toList.reverse.head?, Text.isBlank c = false := by
    intro c member
    rw [List.head?_reverse] at member
    rw [Text.endsBlank, Option.any_eq_false] at free
    exact free c member
  have kept : text.toList.reverse.dropWhile Text.isBlank = text.toList.reverse := by
    cases reversed : text.toList.reverse with
    | nil => rfl
    | cons c others =>
        rw [List.dropWhile_cons_of_neg]
        simp [last c (by rw [reversed]; rfl)]
  rw [Text.trimEnd, Text.trimEndChars, kept, List.reverse_reverse, String.ofList_toList]

/-- A space behind a text is trimmed off. -/
theorem trimEnd_append_space (text : String) : Text.trimEnd (text ++ " ") = Text.trimEnd text := by
  have space : Text.isBlank ' ' = true := by decide
  simp [Text.trimEnd, Text.trimEndChars, space]

/-- Solid texts with spaces between them end in no blank. -/
theorem endsBlank_intercalate {tokens : List Token} (solid : ∀ token ∈ tokens, Text.Solid token) :
    Text.endsBlank (" ".intercalate tokens) = false := by
  rcases List.eq_nil_or_concat tokens with rfl | ⟨before, last, rfl⟩
  · rfl
  · rw [List.concat_eq_append, intercalate_append_cons, String.intercalate_singleton]
    have own : Text.Solid last := solid last (by simp)
    obtain ⟨c, others, split⟩ := List.exists_cons_of_ne_nil
      (List.reverse_ne_nil_iff.mpr (by simpa using own.nonempty : last.toList ≠ []))
    have member : c ∈ last.toList := by
      rw [← List.mem_reverse, split]
      exact List.mem_cons_self
    have ends : last.toList.getLast? = some c := by
      rw [← List.head?_reverse, split]
      rfl
    simp [Text.endsBlank, ends, own.free c member]

/-- What is trimmed off the spaced tokens is the last space. -/
theorem trimEnd_spaced {tokens : List Token} (solid : ∀ token ∈ tokens, Text.Solid token) :
    Text.trimEnd (spaced tokens) = " ".intercalate tokens := by
  have kept := trimEnd_eq_self (endsBlank_intercalate solid)
  rcases List.eq_nil_or_concat tokens with rfl | ⟨before, last, rfl⟩
  · exact kept
  · rw [List.concat_eq_append] at kept ⊢
    rw [spaced_append, spaced_cons, ← String.append_assoc, ← String.append_assoc]
    rw [intercalate_append_cons, String.intercalate_singleton] at kept ⊢
    change Text.trimEnd (spaced before ++ last ++ " " ++ "") = _
    rw [String.append_empty, trimEnd_append_space, kept]

theorem solid_dots (left : Bool) : ∀ token ∈ dots left, Text.Solid token := by
  cases left with
  | false => nofun
  | true =>
      intro token member
      rw [List.mem_singleton.mp member]
      exact .of_all (by decide) (by decide)

/-! ## Excerpts around errors -/

section Around

variable {tokens : List Token} {error : SyntaxError}

theorem focus_eq (inside : error.position ≤ tokens.length) :
    focus tokens error = error.position :=
  Nat.min_eq_left inside

theorem window_eq (inside : error.position ≤ tokens.length) :
    window tokens error = shown tokens error.position := by
  apply Option.get_of_eq_some
  rw [start, stop, focus_eq inside]
  exact part?_eq_shown inside

theorem start_pos_iff (inside : error.position ≤ tokens.length) :
    0 < start tokens error ↔ contextTokens < error.position := by
  rw [start, focus_eq inside]
  exact Nat.sub_pos_iff_lt

theorem stop_lt_iff (inside : error.position ≤ tokens.length) :
    stop tokens error < tokens.length ↔ error.position + contextTokens + 1 < tokens.length := by
  rw [stop, focus_eq inside]
  omega

/-- The offending token is shown unless the error is at the end. -/
theorem focus_lt_stop_iff (inside : error.position ≤ tokens.length) :
    focus tokens error < stop tokens error ↔ error.position < tokens.length := by
  rw [stop, focus_eq inside]
  omega

theorem beforeText_eq (inside : error.position ≤ tokens.length) :
    beforeText tokens error = spaced (dots (contextTokens < error.position) ++
      (window tokens error).take (focus tokens error - start tokens error)) := by
  rw [spaced_append, beforeText]
  by_cases left : contextTokens < error.position <;>
    simp [left, start_pos_iff inside, dots, spaced]

/-- The texts before the offending token and from it on show the whole window. -/
theorem beforeText_append_afterText (inside : error.position ≤ tokens.length) :
    beforeText tokens error ++ afterText tokens error =
      spaced (dots (contextTokens < error.position) ++ shown tokens error.position) ++
        (if error.position + contextTokens + 1 < tokens.length then "..." else "") := by
  rw [beforeText_eq inside, afterText, ← String.append_assoc, ← spaced_append, List.append_assoc,
    List.take_append_drop, window_eq inside]
  simp only [stop_lt_iff inside]

/-- The first of the tokens shown from the offending one on is that one. -/
theorem drop_window (inside : error.position ≤ tokens.length) {token : Token}
    (present : tokens[error.position]? = some token) :
    ∃ more, (window tokens error).drop (focus tokens error - start tokens error) =
      token :: more := by
  refine ⟨(tokens.drop (error.position + 1)).take contextTokens, ?_⟩
  have skipped : start tokens error + (focus tokens error - start tokens error) =
      error.position := by
    rw [start, focus_eq inside]
    omega
  have count : error.position + contextTokens + 1 - error.position = contextTokens + 1 := by omega
  rw [window_eq inside, shown_eq, ← focus_eq inside, ← start, List.drop_drop, skipped,
    focus_eq inside, List.drop_take, List.drop_eq_getElem?_toList_append, present, count]
  rfl

theorem solid_shown {position : Nat} (solid : ∀ token ∈ tokens, Text.Solid token) :
    ∀ token ∈ shown tokens position, Text.Solid token := by
  intro token member
  rw [shown_eq] at member
  exact solid token (List.mem_of_mem_take (List.mem_of_mem_drop member))

/-- The line shows the tokens around the error with single spaces between them. -/
theorem line_around (solid : ∀ token ∈ tokens, Text.Solid token)
    (inside : error.position ≤ tokens.length) :
    (around tokens error).line = " ".intercalate
      (dots (contextTokens < error.position) ++ shown tokens error.position ++
        dots (error.position + contextTokens + 1 < tokens.length)) := by
  have whole : ∀ token ∈ dots (contextTokens < error.position) ++ shown tokens error.position ++
      dots (error.position + contextTokens + 1 < tokens.length), Text.Solid token := by
    simp only [List.mem_append]
    rintro token ((member | member) | member)
    · exact solid_dots _ token member
    · exact solid_shown solid token member
    · exact solid_dots _ token member
  rw [around]
  dsimp only
  rw [beforeText_append_afterText inside]
  by_cases later : error.position + contextTokens + 1 < tokens.length
  · have last : dots (error.position + contextTokens + 1 < tokens.length) = ["..."] := by
      simp [dots, later]
    rw [last] at whole ⊢
    rw [if_pos later, ← trimEnd_eq_self (endsBlank_intercalate whole), intercalate_append_cons,
      String.intercalate_singleton]
  · have last : dots (error.position + contextTokens + 1 < tokens.length) = [] := by
      simp [dots, later]
    rw [last, List.append_nil] at whole ⊢
    rw [if_neg later, String.append_empty, trimEnd_spaced whole]

/-- The carets of an excerpt around an error stand under the token that the error names. -/
theorem around_marks (solid : ∀ token ∈ tokens, Text.Solid token)
    (inside : error.position ≤ tokens.length) (found : error.found = tokens[error.position]?) :
    (around tokens error).Marks tokens error.position := by
  refine ⟨line_around solid inside, ?_, ?_⟩
  · intro token present
    have before : error.position < tokens.length := (List.getElem?_eq_some_iff.mp present).1
    have own : Text.Solid token := solid token (List.mem_of_getElem? present)
    have width : (around tokens error).caretWidth = token.length := by
      have filled : token.length ≠ 0 := by simpa using own.nonempty
      simp only [around, found, present, Option.map_some, Option.getD_some]
      omega
    have column : (around tokens error).caretColumn = (beforeText tokens error).length := by
      simp only [around, if_pos ((focus_lt_stop_iff inside).mpr before)]
    obtain ⟨more, behind⟩ := drop_window inside present
    obtain ⟨text, rest⟩ := intercalate_cons token
      (more ++ dots (error.position + contextTokens + 1 < tokens.length))
    refine ⟨width, ?_⟩
    have line := line_around solid inside
    rw [← window_eq inside, ← List.take_append_drop (focus tokens error - start tokens error)
      (window tokens error), behind, ← List.append_assoc, List.append_assoc, List.cons_append,
      intercalate_append_cons, rest] at line
    rw [width, column, line, beforeText_eq inside, String.toList_append, String.toList_append,
      List.drop_left' String.length_toList, List.take_left' String.length_toList]
  · intro ended
    have absent : tokens[error.position]? = none :=
      List.getElem?_eq_none (Nat.le_of_eq ended.symm)
    have last : ¬ focus tokens error < stop tokens error := by
      rw [focus_lt_stop_iff inside, ended]
      exact Nat.lt_irrefl _
    constructor
    · simp only [around, if_neg last]
    · simp only [around, found, absent]
      rfl

end Around

end Excerpt

open Grammar in
/-- Where a call fails on solid tokens, the diagnostic of its error shows the tokens around the
error, which are a part within the tokens, and carets that mark the offending one. -/
theorem Diagnostic.text_of_refused (settings : Settings) (levels : Nat) (call : Call)
    (start : State) {error : SyntaxError} {finish : State}
    (refused : (call.rule settings levels).run start = .error error finish)
    (solid : ∀ token ∈ start.cursor.tokens.toList, Text.Solid token) (file : Option String) :
    ∃ excerpt : Excerpt,
      Diagnostic.text ⟨error, some start.cursor.tokens.toList, file⟩ false =
        error.kind.title ++ ": " ++ error.message ++ "\n" ++
          "  --> " ++ Diagnostic.place ⟨error, some start.cursor.tokens.toList, file⟩ ++ "\n" ++
          "  | " ++ excerpt.line ++ "\n" ++
          "  | " ++ String.ofList (List.replicate excerpt.caretColumn ' ') ++
            String.ofList (List.replicate excerpt.caretWidth '^') ++ "\n" ∧
      excerpt.Marks start.cursor.tokens.toList error.position ∧
      error.position ≤ start.cursor.tokens.toList.length ∧
      Excerpt.part? start.cursor.tokens.toList (error.position - contextTokens)
          (min (error.position + contextTokens + 1) start.cursor.tokens.toList.length) =
        some (Excerpt.shown start.cursor.tokens.toList error.position) := by
  obtain ⟨-, -, -, within, described⟩ := call.error_describes settings levels start refused
  have inside : error.position ≤ start.cursor.tokens.toList.length := by
    rwa [Array.length_toList]
  have found : error.found = start.cursor.tokens.toList[error.position]? := by
    rw [Array.getElem?_toList]
    exact described.found
  refine ⟨Excerpt.around start.cursor.tokens.toList error, ?_,
    Excerpt.around_marks solid inside found, inside, Excerpt.part?_eq_shown inside⟩
  have arrow : "  " ++ "-->" ++ " " = "  --> " := by decide
  have bar : "  " ++ "|" ++ " " = "  | " := by decide
  simp only [text, excerptText, Excerpt.margin, Excerpt.carets, Colour.paint, Bool.false_eq_true,
    if_false, bar]
  simp only [← arrow, String.append_assoc]

open Grammar in
/-- Tokens are left out on both sides of a target that is no name, whose letters take more bytes
than columns. -/
theorem Diagnostic.text_of_refused_target :
    ∃ error finish excerpt, (Call.program.rule {} 9).run
        ⟨.ofList ["\x7b", "a", "=", "1", ";", "b", "=", "2", ";", "größe", "=", "3", ";", "c", "=",
          "4", ";", "\x7d"], #[]⟩ = .error error finish ∧
      error.position = 9 ∧
      Excerpt.line excerpt = "... 1 ; b = 2 ; größe = 3 ; c = 4 ..." ∧
      excerpt.caretWidth = 5 ∧
      (excerpt.line.toList.drop excerpt.caretColumn).take excerpt.caretWidth = "größe".toList := by
  obtain ⟨error, finish, refused, place⟩ : ∃ error finish, (Call.program.rule {} 9).run
      ⟨.ofList ["\x7b", "a", "=", "1", ";", "b", "=", "2", ";", "größe", "=", "3", ";", "c", "=",
        "4", ";", "\x7d"], #[]⟩ = .error error finish ∧ error.position = 9 := ⟨_, _, rfl, rfl⟩
  have solid : ∀ token ∈ ["\x7b", "a", "=", "1", ";", "b", "=", "2", ";", "größe", "=", "3", ";",
      "c", "=", "4", ";", "\x7d"], Text.Solid token := by
    have tested : ∀ token ∈ ["\x7b", "a", "=", "1", ";", "b", "=", "2", ";", "größe", "=", "3", ";",
        "c", "=", "4", ";", "\x7d"], token.isEmpty = false ∧
          token.toList.all (fun c => !Text.isBlank c) = true := by decide
    exact fun token member => .of_all (tested token member).1 (tested token member).2
  obtain ⟨excerpt, -, marks, -, -⟩ := Diagnostic.text_of_refused {} 9 .program _ refused solid none
  rw [place] at marks
  obtain ⟨width, under⟩ := marks.under "größe" rfl
  exact ⟨error, finish, excerpt, refused, place, marks.line_eq.trans (by decide), width, under⟩

end BlockLang
