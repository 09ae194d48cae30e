import BlockLang.Text.Blank

/-!
# Words of texts that are put together

Where a blank stands at the seam of two texts, the words of the whole are those of the parts. A text
that is solid, not empty and without a blank, is its only word.
-/

namespace BlockLang.Text

/-- The last character of a text is a blank. -/
def endsBlank (text : String) : Bool := text.toList.getLast?.any isBlank

/-- The first character of a text is a blank. -/
def beginsBlank (text : String) : Bool := text.toList.head?.any isBlank

/-- A text that is not empty and holds no blank. -/
structure Solid (text : String) : Prop where
  nonempty : text ≠ ""
  free : ∀ c ∈ text.toList, isBlank c = false

/-- No blank lies among the printable characters of ASCII. -/
theorem isBlank_of_code {c : Char} (low : 33 ≤ c.toNat) (high : c.toNat ≤ 126) :
    isBlank c = false := by
  simp only [isBlank, Bool.or_eq_false_iff, Bool.and_eq_false_iff, beq_eq_false_iff_ne,
    decide_eq_false_iff_not]
  omega

theorem Solid.of_all {text : String} (nonempty : text.isEmpty = false)
    (free : text.toList.all (fun c => !isBlank c) = true) : Solid text := by
  refine ⟨?_, fun c member => ?_⟩
  · rintro rfl
    exact absurd nonempty (by decide)
  · simpa using List.all_eq_true.mp free c member

/-- A blank separates the words before it from those after it. -/
theorem wordChars_append_cons (before after : List Char) {c : Char} (blank : isBlank c = true) :
    wordChars (before ++ c :: after) = wordChars before ++ wordChars after := by
  rw [wordChars, List.splitOnP_append_cons before after blank, List.filter_append]
  rfl

theorem words_append_of_ends {first : String} (ends : endsBlank first = true) (second : String) :
    words (first ++ second) = words first ++ words second := by
  rw [endsBlank, Option.any_eq_true] at ends
  obtain ⟨c, last, blank⟩ := ends
  obtain ⟨front, split⟩ := List.getLast?_eq_some_iff.mp last
  have left : wordChars first.toList = wordChars front := by
    rw [split, wordChars_append_cons front [] blank, wordChars_nil, List.append_nil]
  have whole : wordChars (first ++ second).toList = wordChars front ++ wordChars second.toList := by
    rw [String.toList_append, split, List.append_assoc]
    exact wordChars_append_cons front second.toList blank
  rw [words, whole, words, words, left, List.map_append]

theorem words_append_of_begins (first : String) {second : String}
    (begins : beginsBlank second = true) :
    words (first ++ second) = words first ++ words second := by
  rw [beginsBlank, Option.any_eq_true] at begins
  obtain ⟨c, head, blank⟩ := begins
  obtain ⟨rest, split⟩ := List.head?_eq_some_iff.mp head
  have right : wordChars second.toList = wordChars rest := by
    rw [split]
    exact wordChars_append_cons [] rest blank
  rw [words, String.toList_append, split, wordChars_append_cons _ rest blank, words, words, right,
    List.map_append]

theorem words_of_solid {text : String} (solid : Solid text) : words text = [text] := by
  have filled : text.toList.isEmpty = false := by
    have nonempty := solid.nonempty
    simpa using nonempty
  rw [words, wordChars, List.splitOnP_eq_singleton solid.free, List.filter_cons, filled]
  simp

theorem endsBlank_append (first : String) {second : String} (ends : endsBlank second = true) :
    endsBlank (first ++ second) = true := by
  rw [endsBlank, Option.any_eq_true] at ends ⊢
  obtain ⟨c, last, blank⟩ := ends
  exact ⟨c, by simp [last], blank⟩

/-- A text with blanks at both ends keeps the texts around it apart. -/
theorem words_separated (before : String) {separator : String}
    (apart : (beginsBlank separator && endsBlank separator) = true) (after : String) :
    words (before ++ separator ++ after) = words before ++ words separator ++ words after := by
  rw [Bool.and_eq_true] at apart
  obtain ⟨begins, ends⟩ := apart
  rw [words_append_of_ends (endsBlank_append before ends), words_append_of_begins before begins]

/-- Indentation has no words and is not in the way of those behind it. -/
theorem words_indentation_append (level : Nat) (text : String) :
    words (indentation level ++ text) = words text := by
  have spaces (count : Nat) :
      wordChars (List.replicate count ' ' ++ text.toList) = wordChars text.toList := by
    induction count with
    | zero => rfl
    | succ count ih => exact (wordChars_append_cons [] _ (by decide)).trans ih
  rw [words, indentation, String.toList_append, String.toList_ofList, spaces, words]

end BlockLang.Text
