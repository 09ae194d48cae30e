import BlockLang.CommandLine.Invocation
import BlockLang.Text.Bytes

/-!
# Dialogues

Without a file, lines of input are read as statements, one by one, each under a numbered prompt. A
blank line has no effect and is given no number; `exit` and `quit` end the dialogue, and so do the
end of the input and a line that is not text. The number of the prompt is a signed one of 32 bits,
which can overflow.
-/

namespace BlockLang.Dialogue

/-- What is written before the first prompt. -/
def banner : String :=
  "brace v" ++ version ++ " - Parser REPL\nType 'exit' to quit\n\n"

/-- The prompt of the line with the given number. -/
def prompt (number : Int32) : String := "brace:" ++ toString number ++ " > "

/-- What is written at the end. -/
def farewell : String := "\nGoodbye!\n"

/-- What is written about a line that is not text. -/
def unreadable : String := "Error reading input: stream did not contain valid UTF-8\n"

/-- What a line is answered with. -/
inductive Reply where
  | leave
  | silence
  | answer (transcript : Transcript)
  deriving DecidableEq, Repr, Inhabited

/-- The answer to a statement. -/
def answer (invocation : Invocation) (statement : String) : Transcript :=
  let tokens := Text.words statement
  match Rule.standalone.parse invocation.settings tokens with
  | .ok tree => { out := invocation.treeText tree ++ "\n" }
  | .error error => { err := invocation.errorText none tokens error }

/-- The reply to a line of text. -/
def reply (invocation : Invocation) (line : String) : Reply :=
  let input := Text.trim line
  if input = "exit" ∨ input = "quit" then .leave
  else if input.isEmpty then .silence
  else .answer (answer invocation input)

/-- The outcome from the end of a dialogue on. -/
def closing : Outcome := ⟨0, { out := farewell }⟩

/-- What follows a turn: another prompt, or the end of the program. -/
inductive Following where
  | prompt (number : Int32)
  | ending (outcome : Outcome)
  deriving DecidableEq, Repr, Inhabited

/-- What follows an answer: the prompt with the next number, unless that overflows and the program
stops. -/
def afterAnswer (overflow : Overflow) (number : Int32) : Following :=
  match overflow with
  | .wraps => .prompt (number + 1)
  | .stops report =>
      if number = Int32.maxValue then .ending (.stopped report) else .prompt (number + 1)

/-- What is written after the prompt for a line, and what follows. A line that is not text is
absent. -/
def turn (invocation : Invocation) (number : Int32) (line : Option String) :
    Transcript × Following :=
  match line with
  | none => ({ err := unreadable }, .ending closing)
  | some text =>
      match reply invocation text with
      | .leave => ({}, .ending closing)
      | .silence => ({}, .prompt number)
      | .answer transcript => (transcript, afterAnswer invocation.overflow number)

/-- The outcome from the prompt with the given number on, with the given lines to come. -/
def run (invocation : Invocation) (number : Int32) : List (Option String) → Outcome
  | [] => closing.after { out := prompt number }
  | line :: lines =>
      let (transcript, following) := turn invocation number line
      Outcome.after ({ out := prompt number } ++ transcript) <|
        match following with
        | .prompt next => run invocation next lines
        | .ending outcome => outcome

/-- The whole dialogue over an input. -/
def ofInput (invocation : Invocation) (input : List UInt8) : Outcome :=
  (run invocation 1 ((Text.lines input).map Text.decode)).after { out := banner }

end BlockLang.Dialogue
