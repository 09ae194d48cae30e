import BlockLang.Diagnostic
import BlockLang.Grammar.Rule

/-!
# Invocations

An invocation is what the command line asks for: the settings, how a tree is shown, and a file or
none. With it goes what the surroundings decide, which are colours and how the program was built.
What a run writes is a transcript of its two streams, and its outcome has the exit code besides.
-/

namespace BlockLang

/-- The version of the program. -/
def version : String := "0.1.0"

/-- What is done about a sum that does not fit its type: a program that was built without checks
wraps around, one with checks stops with a report, whose text is left to the compiler. -/
inductive Overflow where
  | wraps
  | stops (report : String)
  deriving DecidableEq, Repr, Inhabited

/-- What the command line asks for, and what the surroundings decide. -/
structure Invocation where
  settings : Settings := {}
  /-- List the tokens of the file and read no program. -/
  listing : Bool := false
  /-- Show a tree as canonical text and not as a dump. -/
  canonical : Bool := false
  coloured : Bool := false
  file : Option String := none
  overflow : Overflow := .wraps
  deriving DecidableEq, Repr, Inhabited

/-- What has been written to standard output and standard error. -/
@[ext] structure Transcript where
  out : String := ""
  err : String := ""
  deriving DecidableEq, Repr, Inhabited

/-- One transcript after another, stream by stream. -/
def Transcript.append (first second : Transcript) : Transcript :=
  ⟨first.out ++ second.out, first.err ++ second.err⟩

instance : Append Transcript := ⟨Transcript.append⟩

namespace Transcript

@[simp] theorem err_append (first second : Transcript) :
    (first ++ second).err = first.err ++ second.err := rfl

@[simp] theorem append_empty (transcript : Transcript) : transcript ++ {} = transcript :=
  Transcript.ext String.append_empty String.append_empty

@[simp] theorem empty_append (transcript : Transcript) : {} ++ transcript = transcript :=
  Transcript.ext String.empty_append String.empty_append

theorem append_assoc (first second third : Transcript) :
    first ++ second ++ third = first ++ (second ++ third) :=
  Transcript.ext String.append_assoc String.append_assoc

end Transcript

/-- What a run writes, and the code with which it ends. -/
structure Outcome where
  exitCode : Nat
  transcript : Transcript
  deriving DecidableEq, Repr, Inhabited

namespace Outcome

/-- The outcome when something has been written before. -/
def after (before : Transcript) (outcome : Outcome) : Outcome :=
  ⟨outcome.exitCode, before ++ outcome.transcript⟩

@[simp] theorem transcript_after (before : Transcript) (outcome : Outcome) :
    (outcome.after before).transcript = before ++ outcome.transcript := rfl

/-- The outcome of a program that stops at an overflow. -/
def stopped (report : String) : Outcome := ⟨101, { err := report }⟩

end Outcome

namespace Invocation

/-- The text under which a tree is shown. -/
def treeText (invocation : Invocation) (tree : Tree) : String :=
  if invocation.canonical then tree.render invocation.settings.keyword else tree.record.spread 0

/-- The diagnostic of an error in some tokens of a file or of a line. -/
def errorText (invocation : Invocation) (file : Option String) (tokens : List Token)
    (error : SyntaxError) : String :=
  (Diagnostic.mk error (some tokens) file).text invocation.coloured

end Invocation

end BlockLang
