import BlockLang.CommandLine.Dialogue

/-!
# Runs of the program

A run checks its settings first. With a file it lists the tokens or reads a program; without one it
holds a dialogue over standard input.
-/

namespace BlockLang

/-- Why a file cannot be read as text. -/
inductive ReadFault where
  | missing
  | notText
  | other (reason : String)
  deriving DecidableEq, Repr, Inhabited

def ReadFault.message : ReadFault → String
  | .missing => "No such file or directory (os error 2)"
  | .notText => "stream did not contain valid UTF-8"
  | .other reason => reason

/-- The text of a file that holds some bytes, or of no file. -/
def readText (content : Option (List UInt8)) : Except ReadFault String :=
  match content with
  | none => .error .missing
  | some bytes =>
      match Text.decode bytes with
      | some text => .ok text
      | none => .error .notText

namespace Invocation

/-- Spaces that fill a text up to a width. -/
def filler (width : Nat) (text : String) : String :=
  String.ofList (List.replicate (width - text.length) ' ')

/-- The row of a token: its index, its category and its quoted text. -/
def listingRow (settings : Settings) (index : Nat) (token : Token) : String :=
  let number := toString index
  let category := (token.category settings.keyword).text
  filler 4 number ++ number ++ ": " ++ category ++ filler 20 category ++ " | " ++
    Text.quoted token ++ "\n"

/-- The rows of some tokens, counted from the given index. -/
def listingRows (settings : Settings) (index : Nat) : List Token → String
  | [] => ""
  | token :: tokens =>
      listingRow settings index token ++ listingRows settings (index + 1) tokens

/-- The line above and below a listing. -/
def ruler : String := String.ofList (List.replicate 60 '=') ++ "\n"

/-- The tokens of a file with their categories. -/
def listingText (settings : Settings) (file : String) (tokens : List Token) : String :=
  "Tokens for '" ++ file ++ "':\n" ++ ruler ++ listingRows settings 0 tokens ++ ruler ++
    "Total tokens: " ++ toString tokens.length ++ "\n"

/-- What a run with the given text of its file gives. -/
def runText (invocation : Invocation) (file text : String) : Outcome :=
  let tokens := Text.words text
  if invocation.listing then ⟨0, { out := listingText invocation.settings file tokens }⟩
  else
    match parseProgram invocation.settings tokens with
    | .ok tree => ⟨0, { out := invocation.treeText tree ++ "\n" }⟩
    | .error error => ⟨1, { err := invocation.errorText (some file) tokens error ++ "\n" }⟩

/-- What a run with a file gives. -/
def runFile (invocation : Invocation) (file : String) (content : Except ReadFault String) :
    Outcome :=
  match content with
  | .ok text => invocation.runText file text
  | .error fault =>
      ⟨1, { err := "Failed to read file '" ++ file ++ "': " ++ fault.message ++ "\n" }⟩

/-- The outcome of settings that are not fit for use. -/
def refusal (fault : Settings.Fault) : Outcome :=
  ⟨2, { err := "Invalid configuration: " ++ fault.message ++ "\n" }⟩

/-- What a run gives, with the content of its file and its standard input. -/
def run (invocation : Invocation) (content : Except ReadFault String) (input : List UInt8) :
    Outcome :=
  match invocation.settings.fault? with
  | some fault => refusal fault
  | none =>
      match invocation.file with
      | some file => invocation.runFile file content
      | none => Dialogue.ofInput invocation input

end Invocation

end BlockLang
