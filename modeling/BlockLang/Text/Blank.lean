/-!
# Blanks, words and indentation

Words are the maximal runs of characters between blanks, where a blank is any character with the
property White_Space. A word is never empty and holds no blank.
-/

namespace BlockLang.Text

/-- The characters with the property White_Space. -/
def isBlank (c : Char) : Bool :=
  let code := c.toNat
  (0x9 ≤ code && code ≤ 0xd) || code == 0x20 || code == 0x85 || code == 0xa0 || code == 0x1680 ||
    (0x2000 ≤ code && code ≤ 0x200a) || code == 0x2028 || code == 0x2029 || code == 0x202f ||
    code == 0x205f || code == 0x3000

/-- The nonempty runs of characters between blanks, in order. -/
def wordChars (chars : List Char) : List (List Char) :=
  (chars.splitOnP isBlank).filter fun run => !run.isEmpty

/-- The words of a text, in order. -/
def words (text : String) : List String :=
  (wordChars text.toList).map String.ofList

/-- Drops the blanks at the end of a list of characters. -/
def trimEndChars (chars : List Char) : List Char :=
  (chars.reverse.dropWhile isBlank).reverse

/-- A text without the blanks at its end. -/
def trimEnd (text : String) : String :=
  String.ofList (trimEndChars text.toList)

/-- A text without the blanks at either end. -/
def trim (text : String) : String :=
  String.ofList (trimEndChars (text.toList.dropWhile isBlank))

/-- The spaces before a line on the given level, four for each level. -/
def indentation (level : Nat) : String := String.ofList (List.replicate (4 * level) ' ')

/-- The blanks include every character that core counts as white space. -/
theorem isBlank_of_isWhitespace (c : Char) (white : c.isWhitespace = true) : isBlank c = true := by
  simp only [Char.isWhitespace, Bool.or_eq_true, decide_eq_true_eq] at white
  rcases white with ((rfl | rfl) | rfl) | rfl <;> decide

@[simp] theorem wordChars_nil : wordChars [] = [] := by
  simp [wordChars]

@[simp] theorem words_empty : words "" = [] := by
  simp [words]

end BlockLang.Text
