import BlockLang.CommandLine.Arguments
import BlockLang.CommandLine.Run

/-!
# The program

The outer layer reads the arguments, the file and the lines of input, and writes what the library
answers.
-/

namespace BlockLang.Program

/-- Writes a transcript. -/
def emit (transcript : Transcript) : IO Unit := do
  let out ← IO.getStdout
  out.putStr transcript.out
  out.flush
  (← IO.getStderr).putStr transcript.err

/-- The content of a file. -/
def contentOf (file : String) : IO (Except ReadFault String) := do
  try
    return readText (some (← IO.FS.readBinFile file).toList)
  catch
    | .noFileOrDirectory _ _ _ => return .error .missing
    | other => return .error (.other (toString other))

/-- The bytes up to the end of a line, put before those already read, the last one first. -/
partial def lineBytes (input : IO.FS.Stream) (read : List UInt8) : IO (List UInt8) := do
  match (← input.read 1).toList with
  | byte :: _ => if byte = Text.newline then return byte :: read else lineBytes input (byte :: read)
  | [] => return read

/-- The next line of input, without which the input has ended; a line that is not text is absent. -/
def nextLine : IO (Option (Option String)) := do
  let bytes ← lineBytes (← IO.getStdin) []
  return if bytes.isEmpty then none else some (Text.decode bytes.reverse)

/-- Writes an outcome and ends with its code. -/
def finish (outcome : Outcome) : IO UInt32 := do
  emit outcome.transcript
  return outcome.exitCode.toUInt32

/-- Holds a dialogue, one line at a time. -/
partial def converse (invocation : Invocation) (number : Int32) : IO UInt32 := do
  emit { out := Dialogue.prompt number }
  match ← nextLine with
  | none => finish Dialogue.closing
  | some line =>
      let (transcript, following) := Dialogue.turn invocation number line
      emit transcript
      match following with
      | .prompt next => converse invocation next
      | .ending outcome => finish outcome

/-- True when diagnostics are to be coloured. -/
def wantsColour : IO Bool := do
  let force ← IO.getEnv "CLICOLOR_FORCE"
  let never ← IO.getEnv "NO_COLOR"
  let wish ← IO.getEnv "CLICOLOR"
  if force.any (· != "0") then return true
  else if never.isSome then return false
  else return (wish.getD "1") != "0" && (← (← IO.getStdout).isTty)

/-- Does what an invocation asks for. -/
def perform (invocation : Invocation) : IO UInt32 := do
  match invocation.settings.fault?, invocation.file with
  | none, none =>
      emit { out := Dialogue.banner }
      converse invocation 1
  | none, some file => finish (invocation.run (← contentOf file) [])
  | some fault, _ => finish (Invocation.refusal fault)

end BlockLang.Program

def main (arguments : List String) : IO UInt32 := do
  let coloured ← BlockLang.Program.wantsColour
  match BlockLang.Invocation.ofArguments { coloured } arguments with
  | .ok invocation => BlockLang.Program.perform invocation
  | .error fault =>
      (← IO.getStderr).putStrLn fault.message
      return 2
