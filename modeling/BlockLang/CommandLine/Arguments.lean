import BlockLang.CommandLine.Invocation

/-!
# Arguments

The arguments of the command line are options and at most one file. An option that takes a value has
it after an equals sign or as the next argument; after two dashes alone everything is a file.
-/

namespace BlockLang.Invocation

/-- Why some arguments are no invocation. -/
inductive ArgumentFault where
  | unknown (argument : String)
  | missingValue (option : String)
  | notNumber (value : String)
  deriving DecidableEq, Repr, Inhabited

def ArgumentFault.message : ArgumentFault → String
  | .unknown argument => "error: unexpected argument '" ++ argument ++ "' found"
  | .missingValue option =>
      "error: a value is required for '" ++ option ++ "' but none was supplied"
  | .notNumber value => "error: invalid value '" ++ value ++ "' for '--max-depth <MAX_DEPTH>'"

/-- The invocation with one more file; a second one is too many. -/
def withFile (invocation : Invocation) (file : String) : Except ArgumentFault Invocation :=
  match invocation.file with
  | none => .ok { invocation with file := some file }
  | some _ => .error (.unknown file)

/-- The number of 64 bits that an argument spells in decimal digits, which a plus sign may precede.
-/
def numberOf? (argument : String) : Option Nat :=
  let digits :=
    match argument.toList with
    | '+' :: digits => digits
    | digits => digits
  let number := Nat.ofDigitChars 10 digits 0
  if Token.isDigits digits && number < UInt64.size then some number else none

/-- The invocation with a value for an option. -/
def withValue (invocation : Invocation) (option value : String) : Except ArgumentFault Invocation :=
  if option = "--decl-keyword" then
    .ok { invocation with settings := { invocation.settings with keyword := value } }
  else if option = "--max-depth" then
    match numberOf? value with
    | some limit =>
        .ok { invocation with settings := { invocation.settings with maxDepth := limit } }
    | none => .error (.notNumber value)
  else .error (.unknown option)

/-- True of the options that take a value. -/
def takesValue (option : String) : Bool := option == "--decl-keyword" || option == "--max-depth"

/-- The invocation with one more argument that stands alone: an option or a file. Verbosity is
accepted and dropped: all that it changes is the log on standard error, which a transcript does not
hold. -/
def withArgument (invocation : Invocation) (argument : String) : Except ArgumentFault Invocation :=
  if argument = "--tokens" ∨ argument = "-t" then .ok { invocation with listing := true }
  else if argument = "--print" ∨ argument = "-p" then .ok { invocation with canonical := true }
  else if argument ∈ ["--verbose", "-v", "-vv", "-vvv"] then .ok invocation
  else if argument.startsWith "-" && argument != "-" then
    match argument.splitOn "=" with
    | option :: value :: values =>
        if takesValue option then
          invocation.withValue option ("=".intercalate (value :: values))
        else .error (.unknown argument)
    | _ => .error (.unknown argument)
  else invocation.withFile argument

/-- Reads arguments into an invocation. -/
def ofArguments (invocation : Invocation) : List String → Except ArgumentFault Invocation
  | [] => .ok invocation
  | [argument] =>
      if takesValue argument then .error (.missingValue argument)
      else if argument = "--" then .ok invocation
      else invocation.withArgument argument
  | argument :: value :: arguments =>
      if argument = "--" then
        (value :: arguments).foldlM (fun invocation file => invocation.withFile file) invocation
      else if takesValue argument then do
        (← invocation.withValue argument value).ofArguments arguments
      else do
        (← invocation.withArgument argument).ofArguments (value :: arguments)

end BlockLang.Invocation
