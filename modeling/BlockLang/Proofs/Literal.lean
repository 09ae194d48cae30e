import BlockLang.Grammar.Arithmetic
import BlockLang.Number.Layout
import BlockLang.Proofs.Rounding

/-!
# Literals read back

The text of a natural number is an integer literal with the number as its value, and the text of a
finite number without a sign is a float literal with the number as its value. Zeros that are dropped
at the end of a fraction, or added to an empty one, change the quotient of a float literal only by a
power of ten.
-/

namespace BlockLang

/-! ## Integers -/

theorem isDigits_toDigits (number : Nat) : Token.isDigits (Nat.toDigits 10 number) = true := by
  rw [Token.isDigits, Bool.and_eq_true, List.all_eq_true]
  refine ⟨?_, fun c member => Nat.isDigit_of_mem_toDigits (by decide) (by decide) member⟩
  simp

/-- The text of a natural number is an integer literal. -/
theorem toString_isInteger (number : Nat) : Token.isInteger (toString (number : Int)) = true := by
  have text : (toString (number : Int) : String).toList = Nat.toDigits 10 number := by
    exact Nat.toList_repr
  rw [Token.isInteger, text]
  exact isDigits_toDigits number

theorem toString_integerValue (number : Nat) :
    Token.integerValue (toString (number : Int)) = number := by
  have text : (toString (number : Int) : String).toList = Nat.toDigits 10 number := by
    exact Nat.toList_repr
  rw [Token.integerValue, text]
  exact Nat.ofDigitChars_ten_toDigits

/-! ## Two runs of digits around a point -/

theorem ne_point_of_isDigits {run : List Char} (digits : Token.isDigits run = true) :
    ∀ c ∈ run, (c != '.') = true := by
  rw [Token.isDigits, Bool.and_eq_true, List.all_eq_true] at digits
  intro c member
  rw [bne_iff_ne]
  rintro rfl
  exact absurd (digits.2 _ member) (by decide)

section Point

variable {whole fraction : List Char}

theorem wholePart_ofList (digits : Token.isDigits whole = true) :
    Token.wholePart (String.ofList (whole ++ '.' :: fraction)) = whole := by
  have before := ne_point_of_isDigits digits
  rw [Token.wholePart, String.toList_ofList, List.takeWhile_append_of_pos before]
  simp

theorem fractionPart_ofList (digits : Token.isDigits whole = true) :
    Token.fractionPart (String.ofList (whole ++ '.' :: fraction)) = fraction := by
  have before := ne_point_of_isDigits digits
  rw [Token.fractionPart, String.toList_ofList, List.dropWhile_append_of_pos before]
  simp

theorem isFloat_ofList (digits : Token.isDigits whole = true)
    (digits' : Token.isDigits fraction = true) :
    Token.isFloat (String.ofList (whole ++ '.' :: fraction)) = true := by
  rw [Token.isFloat, wholePart_ofList digits, fractionPart_ofList digits, digits, digits']
  simp

end Point

/-! ## Finite numbers -/

namespace Decimal

open Binary64 (unitPlaces)

theorem all_isDigit_digits (d : Decimal) : d.digits.all Char.isDigit = true := by
  have written := isDigits_toDigits d.coefficient
  rw [Token.isDigits, Bool.and_eq_true] at written
  have zero : Char.isDigit '0' = true := by decide
  simp [digits, List.all_append, List.all_replicate, written.2, zero]

theorem unitPlaces_lt_length_digits (d : Decimal) : unitPlaces < d.digits.length := by
  simp only [digits, List.length_append, List.length_replicate]
  omega

/-- The digits of a decimal stand for it as a number of points. -/
theorem ofDigitChars_digits (d : Decimal) : Nat.ofDigitChars 10 d.digits 0 = d.points := by
  rw [digits, Nat.ofDigitChars_append, Nat.ofDigitChars_replicate_zero, Nat.mul_zero,
    Nat.ofDigitChars_append, Nat.ofDigitChars_ten_toDigits, Nat.ofDigitChars_replicate_zero, points,
    Nat.mul_comm]
  rfl

theorem exists_replicate_append_dropWhile (run : List Char) :
    ∃ count, List.replicate count '0' ++ run.dropWhile (· == '0') = run := by
  induction run with
  | nil => exact ⟨0, rfl⟩
  | cons c run ih =>
      by_cases zero : c = '0'
      · obtain ⟨count, split⟩ := ih
        refine ⟨count + 1, ?_⟩
        rw [List.dropWhile_cons_of_pos (by simp [zero]), List.replicate_succ, List.cons_append,
          split, zero]
      · refine ⟨0, ?_⟩
        rw [List.dropWhile_cons_of_neg (by simp [zero])]
        rfl

/-- Only zeros are dropped at the end of a run of digits. -/
theorem exists_dropEndZeros_append (run : List Char) :
    ∃ count, dropEndZeros run ++ List.replicate count '0' = run := by
  obtain ⟨count, split⟩ := exists_replicate_append_dropWhile run.reverse
  refine ⟨count, ?_⟩
  have reversed := congrArg List.reverse split
  rw [List.reverse_append, List.reverse_replicate, List.reverse_reverse] at reversed
  exact reversed

/-- The digits are those before the point, those written after it, and zeros for the places that are
not written. -/
theorem exists_digits_eq (d : Decimal) :
    ∃ count, d.digits = d.wholeDigits ++ d.fractionDigits ++ List.replicate count '0' ∧
      d.fractionDigits.length + count = unitPlaces := by
  obtain ⟨count, split⟩ :=
    exists_dropEndZeros_append (d.digits.drop (d.digits.length - unitPlaces))
  have enough := d.unitPlaces_lt_length_digits
  refine ⟨count, ?_, ?_⟩
  · rw [List.append_assoc, wholeDigits, fractionDigits, split, List.take_append_drop]
  · have lengths := congrArg List.length split
    simp only [List.length_append, List.length_replicate, List.length_drop] at lengths
    rw [fractionDigits, lengths]
    omega

theorem isDigits_wholeDigits (d : Decimal) : Token.isDigits d.wholeDigits = true := by
  have enough := d.unitPlaces_lt_length_digits
  have written := d.all_isDigit_digits
  rw [List.all_eq_true] at written
  rw [Token.isDigits, Bool.and_eq_true, List.all_eq_true]
  refine ⟨?_, fun c member => written c (List.mem_of_mem_take member)⟩
  have length : d.wholeDigits.length ≠ 0 := by
    rw [wholeDigits, List.length_take]
    omega
  simpa using length

/-- The fraction as it is written, which is never empty. -/
def writtenFraction (d : Decimal) : List Char :=
  if d.fractionDigits.isEmpty then ['0'] else d.fractionDigits

theorem positional_eq (d : Decimal) :
    d.positional = d.wholeDigits ++ '.' :: d.writtenFraction := rfl

theorem isDigits_writtenFraction (d : Decimal) : Token.isDigits d.writtenFraction = true := by
  have written := d.all_isDigit_digits
  rw [List.all_eq_true] at written
  obtain ⟨count, split, -⟩ := d.exists_digits_eq
  unfold writtenFraction
  split
  next => decide
  next nonempty =>
    rw [Token.isDigits, Bool.and_eq_true, List.all_eq_true]
    refine ⟨by simpa using nonempty, fun c member => written c ?_⟩
    rw [split]
    simp [member]

/-- The digits as they are written stand for the decimal as a number of the places written. -/
theorem written_cross_mul_eq (d : Decimal) :
    Nat.ofDigitChars 10 (d.wholeDigits ++ d.writtenFraction) 0 * Nat.pow 10 unitPlaces =
      d.points * Nat.pow 10 d.writtenFraction.length := by
  obtain ⟨count, split, places⟩ := d.exists_digits_eq
  have value : d.points =
      Nat.pow 10 count * Nat.ofDigitChars 10 (d.wholeDigits ++ d.fractionDigits) 0 := by
    rw [← ofDigitChars_digits, split]
    exact (Nat.ofDigitChars_append 0).trans Nat.ofDigitChars_replicate_zero
  rw [value, writtenFraction]
  by_cases empty : d.fractionDigits = []
  · rw [empty, List.length_nil, Nat.zero_add] at places
    rw [empty, places, List.append_nil, List.isEmpty_nil, if_pos rfl, Nat.ofDigitChars_append]
    have zero (number : Nat) : Nat.ofDigitChars 10 ['0'] number = 10 * number := rfl
    change _ = Nat.pow 10 unitPlaces * Nat.ofDigitChars 10 d.wholeDigits 0 * 10
    rw [zero, Nat.mul_comm, Nat.mul_left_comm, Nat.mul_comm]
  · have places' :
        Nat.pow 10 unitPlaces = Nat.pow 10 count * Nat.pow 10 d.fractionDigits.length := by
      rw [← places, Nat.add_comm]
      exact Nat.pow_add 10 count d.fractionDigits.length
    rw [if_neg (by simpa using empty), places', Nat.mul_comm, Nat.mul_right_comm]

end Decimal

namespace Binary64

/-- Canonical text is laid out positionally. -/
theorem source_magnitudeText (magnitude : Nat) :
    NumberStyle.source.magnitudeText magnitude =
      String.ofList ((Decimal.shortest magnitude).wholeDigits ++
        '.' :: (Decimal.shortest magnitude).writtenFraction) := by
  simp [NumberStyle.magnitudeText, NumberStyle.isPositional, NumberStyle.source,
    Decimal.positional_eq]

theorem source_text_eq {x : Binary64} (finite : x.isFinite = true) (positive : x.negative = false) :
    NumberStyle.source.text x =
      String.ofList ((Decimal.shortest x.magnitude).wholeDigits ++
        '.' :: (Decimal.shortest x.magnitude).writtenFraction) := by
  rw [isFinite, decide_eq_true_eq] at finite
  have number : x.isNaN = false := decide_eq_false (by omega)
  have bounded : x.isInfinite = false := beq_eq_false_iff_ne.mpr (by omega)
  rw [NumberStyle.text, number, positive, bounded, ← source_magnitudeText]
  simp

theorem source_text_isFloat {x : Binary64} (finite : x.isFinite = true)
    (positive : x.negative = false) : Token.isFloat (NumberStyle.source.text x) = true := by
  rw [source_text_eq finite positive]
  exact isFloat_ofList (Decimal.isDigits_wholeDigits _) (Decimal.isDigits_writtenFraction _)

/-- The canonical text of a finite number without a sign has the number as its value. -/
theorem source_text_floatValue {x : Binary64} (finite : x.isFinite = true)
    (positive : x.negative = false) : Token.floatValue (NumberStyle.source.text x) = x := by
  have bound : x.magnitude < infinityMagnitude := of_decide_eq_true finite
  have whole := Decimal.isDigits_wholeDigits (Decimal.shortest x.magnitude)
  have read : nearestMagnitude
      (Nat.ofDigitChars 10 ((Decimal.shortest x.magnitude).wholeDigits ++
        (Decimal.shortest x.magnitude).writtenFraction) 0)
      (Nat.pow 10 (Decimal.shortest x.magnitude).writtenFraction.length) = x.magnitude := by
    have positive (places : Nat) : 0 < Nat.pow 10 places := Nat.pow_pos (by decide)
    rw [nearestMagnitude_eq_of_cross_mul_eq (positive _) (positive _)
      (Decimal.written_cross_mul_eq _)]
    exact Decimal.magnitude_shortest bound
  rw [source_text_eq finite positive, Token.floatValue, wholePart_ofList whole,
    fractionPart_ofList whole]
  cases x with
  | mk negative magnitude below =>
      cases positive
      simp only [ofQuotient, read]

end Binary64

end BlockLang
