/-!
# Lines of bytes

Input arrives as bytes. It is cut into lines before it is decoded, so that one line that is not
UTF-8 spoils no other.
-/

namespace BlockLang.Text

/-- The byte that ends a line. -/
def newline : UInt8 := 10

/-- Puts a byte at the start of the first line. -/
def extendFirst (byte : UInt8) : List (List UInt8) → List (List UInt8)
  | [] => [[byte]]
  | line :: lines => (byte :: line) :: lines

/-- The lines of an input. Each line keeps its end, which only the last one may lack. -/
def lines : List UInt8 → List (List UInt8)
  | [] => []
  | byte :: bytes =>
      if byte = newline then [byte] :: lines bytes else extendFirst byte (lines bytes)

/-- The text of some bytes, if they are UTF-8. -/
def decode (bytes : List UInt8) : Option String := String.fromUTF8? bytes.toByteArray

@[simp] theorem flatten_extendFirst (byte : UInt8) (lines : List (List UInt8)) :
    (extendFirst byte lines).flatten = byte :: lines.flatten := by
  cases lines <;> rfl

/-- Cutting into lines loses no byte. -/
@[simp] theorem flatten_lines (bytes : List UInt8) : (lines bytes).flatten = bytes := by
  induction bytes with
  | nil => rfl
  | cons byte bytes ih =>
      rw [lines]
      split <;> simp [ih]

end BlockLang.Text
