import BlockLang.SyntaxError
import BlockLang.Text.Blank

/-!
# Diagnostics

A diagnostic shows a syntax error: its kind and message, where it was found, and the tokens around
it with carets under the offending one. Columns count characters.
-/

namespace BlockLang

/-- The number of tokens shown on each side of the offending one. -/
def contextTokens : Nat := 6

/-- The tokens around a position on one line, with the place of the carets below it. -/
structure Excerpt where
  line : String
  caretColumn : Nat
  caretWidth : Nat
  deriving DecidableEq, Repr, Inhabited

namespace Excerpt

/-- The text of some tokens, each with a space after it. -/
def spaced (tokens : List Token) : String := String.join (tokens.map (· ++ " "))

/-- The tokens from one index to another, which must be in order and within the tokens. -/
def part? (tokens : List Token) (start stop : Nat) : Option (List Token) :=
  if start ≤ stop ∧ stop ≤ tokens.length then some ((tokens.take stop).drop start) else none

theorem part?_of_le {tokens : List Token} {start stop : Nat} (order : start ≤ stop)
    (inside : stop ≤ tokens.length) :
    part? tokens start stop = some ((tokens.take stop).drop start) :=
  if_pos ⟨order, inside⟩

section Window

variable (tokens : List Token) (error : SyntaxError)

/-- The position that is shown: that of the error, or the end if the tokens end before it. -/
def focus : Nat := min error.position tokens.length

/-- The index of the first token shown. -/
def start : Nat := focus tokens error - contextTokens

/-- The index behind the last token shown. -/
def stop : Nat := min (focus tokens error + contextTokens + 1) tokens.length

theorem part?_window : part? tokens (start tokens error) (stop tokens error) =
    some ((tokens.take (stop tokens error)).drop (start tokens error)) := by
  have inside : focus tokens error ≤ tokens.length := Nat.min_le_right _ _
  apply part?_of_le
  · rw [start, stop]
    omega
  · exact Nat.min_le_right _ _

/-- The tokens shown, which are a part of the tokens wherever the error is. -/
def window : List Token :=
  (part? tokens (start tokens error) (stop tokens error)).get
    (Option.isSome_of_eq_some (part?_window tokens error))

/-- The text before the offending token: dots for what is left out, and the tokens shown. -/
def beforeText : String :=
  (if 0 < start tokens error then "... " else "") ++
    spaced ((window tokens error).take (focus tokens error - start tokens error))

/-- The text from the offending token on: the tokens shown, and dots for what is left out. -/
def afterText : String :=
  spaced ((window tokens error).drop (focus tokens error - start tokens error)) ++
    (if stop tokens error < tokens.length then "..." else "")

/-- The excerpt around an error. The carets stand under the offending token, or one caret behind the
last token when the error is at the end of input. -/
def around : Excerpt :=
  let line := Text.trimEnd (beforeText tokens error ++ afterText tokens error)
  { line
    caretColumn :=
      if focus tokens error < stop tokens error then (beforeText tokens error).length
      else line.length + 1
    caretWidth := max 1 ((error.found.map String.length).getD 1) }

end Window

/-- The carets below the line. -/
def carets (excerpt : Excerpt) : String :=
  String.ofList (List.replicate excerpt.caretWidth '^')

/-- The blanks before the carets. -/
def margin (excerpt : Excerpt) : String :=
  String.ofList (List.replicate excerpt.caretColumn ' ')

end Excerpt

/-- The colours that a diagnostic can carry. -/
inductive Colour where
  | red | blue
  deriving DecidableEq, Repr

/-- The escape code of a bold colour. -/
def Colour.code : Colour → String
  | .red => "\x1b[1;31m"
  | .blue => "\x1b[1;34m"

/-- A text in a bold colour, if colours are wanted. -/
def Colour.paint (coloured : Bool) (colour : Colour) (text : String) : String :=
  if coloured then colour.code ++ text ++ "\x1b[0m" else text

/-- A syntax error with the tokens and the file that it is about, if they are to be shown. -/
structure Diagnostic where
  error : SyntaxError
  tokens : Option (List Token) := none
  file : Option String := none
  deriving DecidableEq, Repr, Inhabited

namespace Diagnostic

/-- The place of the error, with the name of its file if there is one. -/
def place (diagnostic : Diagnostic) : String :=
  (match diagnostic.file with
  | some file => file ++ ":"
  | none => "") ++ "token " ++ toString diagnostic.error.position

/-- The line of an excerpt and the line of its carets. -/
def excerptText (coloured : Bool) (excerpt : Excerpt) : String :=
  let bar := "  " ++ Colour.blue.paint coloured "|" ++ " "
  bar ++ excerpt.line ++ "\n" ++
    bar ++ excerpt.margin ++ Colour.red.paint coloured excerpt.carets ++ "\n"

/-- The text of a diagnostic. -/
def text (diagnostic : Diagnostic) (coloured : Bool) : String :=
  Colour.red.paint coloured diagnostic.error.kind.title ++ ": " ++
    diagnostic.error.message ++ "\n" ++
    "  " ++ Colour.blue.paint coloured "-->" ++ " " ++ diagnostic.place ++ "\n" ++
    (match diagnostic.tokens with
    | some tokens => excerptText coloured (Excerpt.around tokens diagnostic.error)
    | none => "")

end Diagnostic

end BlockLang
