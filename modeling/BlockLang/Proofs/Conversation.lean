import BlockLang.CommandLine.Run

/-!
# Lines of a dialogue

A dialogue carries nothing from one line to the next but the number of the prompt. So an input that
is cut behind complete lines is answered in two dialogues as in one: the second begins anew, and
only its prompts are numbered from the number of the answers before. A program that stops at an
overflow must have room for the number of every prompt.
-/

namespace BlockLang

/-! ## Complete lines -/

namespace Dialogue

variable (invocation : Invocation) {number : Int32} {count : Nat} {line : Option String}
  {lines : List (Option String)}

/-- A line of text that does not end the dialogue. -/
def Continues (line : Option String) : Prop :=
  ∃ text, line = some text ∧ Text.trim text ≠ "exit" ∧ Text.trim text ≠ "quit"

instance : DecidablePred Continues
  | none => .isFalse (by simp [Continues])
  | some text =>
      decidable_of_iff (Text.trim text ≠ "exit" ∧ Text.trim text ≠ "quit") (by simp [Continues])

/-- True of a line of text that is blank. -/
def isBlank (line : Option String) : Bool := line.any fun text => (Text.trim text).isEmpty

/-- So many answers can be counted from a number on without a program that stops at an overflow
doing so. -/
def HasRoom (overflow : Overflow) (number : Int32) (count : Nat) : Prop :=
  overflow = .wraps ∨ number.toInt + count ≤ Int32.maxValue.toInt

instance (overflow : Overflow) (number : Int32) (count : Nat) :
    Decidable (HasRoom overflow number count) :=
  inferInstanceAs (Decidable (_ ∨ _))

/-- The sum of a number and a count is exact if it fits. -/
theorem toInt_add_ofNat (fits : number.toInt + count ≤ Int32.maxValue.toInt) :
    (number + Int32.ofNat count).toInt = number.toInt + count := by
  have wrapped : (number + Int32.ofNat count).toInt = (number.toInt + count).bmod Int32.size := by
    rw [Int32.toInt_add, Int32.toInt_ofNat']
    exact Int.add_bmod_bmod
  have size : Int32.size = 4294967296 := rfl
  have least := number.le_toInt
  have largest := Int32.toInt_maxValue
  -- the sum lies in the range of the type, where wrapping around changes nothing
  rw [wrapped]
  exact Int.bmod_eq_of_le (by omega) (by omega)

namespace HasRoom

variable {overflow : Overflow} {more : Nat}

theorem none (number : Int32) : HasRoom overflow number 0 := by
  have below := number.toInt_le
  exact .inr (by omega)

theorem mono (room : HasRoom overflow number more) (le : count ≤ more) :
    HasRoom overflow number count := by
  refine room.imp_right fun fits => ?_
  omega

/-- There is room for more answers when there is behind some of them. -/
theorem add_iff (room : HasRoom overflow number count) :
    HasRoom overflow number (count + more) ↔
      HasRoom overflow (number + Int32.ofNat count) more := by
  rcases room with wraps | fits
  · exact ⟨fun _ => .inl wraps, fun _ => .inl wraps⟩
  · rw [HasRoom, HasRoom, toInt_add_ofNat fits, Int.natCast_add, Int.add_assoc]

theorem add (room : HasRoom overflow number (count + more)) :
    HasRoom overflow (number + Int32.ofNat count) more :=
  (room.mono (Nat.le_add_right _ _)).add_iff.mp room

end HasRoom

/-- A part of what is written: a prompt, or what is written between two prompts. -/
inductive Part where
  | prompt (number : Int32)
  | output (transcript : Transcript)
  deriving DecidableEq, Repr

namespace Part

def written : Part → Transcript
  | .prompt number => { out := Dialogue.prompt number }
  | .output transcript => transcript

end Part

/-- What some parts write. -/
def written : List Part → Transcript
  | [] => {}
  | part :: parts => part.written ++ written parts

/-- What is written from the prompt with the given number on, part by part. -/
def parts (number : Int32) : List (Option String) → List Part
  | [] => [.prompt number, .output closing.transcript]
  | line :: lines =>
      .prompt number :: .output (turn invocation number line).1 ::
        match (turn invocation number line).2 with
        | .prompt next => parts next lines
        | .ending outcome => [.output outcome.transcript]

end Dialogue

open Dialogue

namespace Invocation

variable {invocation : Invocation}

end Invocation

end BlockLang
