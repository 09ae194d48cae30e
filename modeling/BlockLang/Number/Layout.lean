import BlockLang.Number.Shortest

/-!
# The text of a number

A decimal is laid out positionally, or as one digit, a fraction and an exponent of ten. Which
layout a number takes is the choice of a style.
-/

namespace BlockLang

namespace Decimal

/-- Drops the zeros at the end of a run of digits. -/
def dropEndZeros (digits : List Char) : List Char :=
  (digits.reverse.dropWhile (· == '0')).reverse

/-- The digits of a decimal down to the last place of the finest grid, of which there is at least
one before the point. -/
def digits (d : Decimal) : List Char :=
  let written := Nat.toDigits 10 d.coefficient ++ List.replicate d.grid '0'
  List.replicate (Binary64.unitPlaces + 1 - written.length) '0' ++ written

/-- The digits before the point. -/
def wholeDigits (d : Decimal) : List Char :=
  d.digits.take (d.digits.length - Binary64.unitPlaces)

/-- The digits after the point, without zeros at the end. -/
def fractionDigits (d : Decimal) : List Char :=
  dropEndZeros (d.digits.drop (d.digits.length - Binary64.unitPlaces))

/-- The whole part, a point, and the fraction; an empty fraction is written as one zero. -/
def positional (d : Decimal) : List Char :=
  let fraction := d.fractionDigits
  d.wholeDigits ++ '.' :: (if fraction.isEmpty then ['0'] else fraction)

/-- The exponent of ten of the leading digit of a nonzero decimal. -/
def leadingExponent (d : Decimal) : Int :=
  ((Nat.toDigits 10 d.coefficient).length + d.grid : Nat) - 1 - Binary64.unitPlaces

/-- The leading digit, the other digits after a point if there are any, and the exponent. -/
def scientific (d : Decimal) : List Char :=
  let exponent := 'e' :: (toString d.leadingExponent).toList
  match dropEndZeros (Nat.toDigits 10 d.coefficient) with
  | [] => '0' :: exponent
  | [digit] => digit :: exponent
  | digit :: digits => digit :: '.' :: digits ++ exponent

end Decimal

/-- The decisions of a number format: the exponents of the leading digit that are written
positionally, where `none` stands for all of them, and the texts of NaN and infinity. -/
structure NumberStyle where
  positionalExponents : Option (Int × Int)
  nan : String
  infinity : String

namespace NumberStyle

/-- Canonical source text is always positional and has a point. -/
def source : NumberStyle := ⟨none, "NaN.0", "inf.0"⟩

/-- A dump is positional from `10 ^ -4` up to below `10 ^ 16`. -/
def dump : NumberStyle := ⟨some (-4, 15), "NaN", "inf"⟩

/-- True when a style lays a decimal out positionally. -/
def isPositional (style : NumberStyle) (d : Decimal) : Bool :=
  match style.positionalExponents with
  | none => true
  | some (low, high) =>
      d.coefficient == 0 || (low ≤ d.leadingExponent && d.leadingExponent ≤ high)

/-- The text of a finite magnitude. -/
def magnitudeText (style : NumberStyle) (magnitude : Nat) : String :=
  let d := Decimal.shortest magnitude
  String.ofList (if style.isPositional d then d.positional else d.scientific)

/-- The text of a number; NaN has no sign. -/
def text (style : NumberStyle) (x : Binary64) : String :=
  if x.isNaN then style.nan
  else
    (if x.negative then "-" else "") ++
      (if x.isInfinite then style.infinity else style.magnitudeText x.magnitude)

example : dump.text (.ofBits 0x3ff8000000000000) = "1.5" := by decide +kernel

example : dump.text (.ofBits 0x4341c37937e08000) = "1e16" := by decide +kernel

example : dump.text (.ofBits 1) = "5e-324" := by decide +kernel

example : source.text (.ofBits 0x4341c37937e08000) = "10000000000000000.0" := by decide +kernel

example : source.text (.ofBits 0x8000000000000000) = "-0.0" := by decide +kernel

end NumberStyle

end BlockLang
