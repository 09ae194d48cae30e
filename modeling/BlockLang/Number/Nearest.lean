import BlockLang.Number.Binary64

/-!
# Rounding to the nearest binary64 number

A quotient of naturals is rounded once, to the nearest magnitude, with ties to the even one. The
magnitudes of one exponent field are equally spaced, so the quotient is divided by the spacing of
its binade and rounded to a whole number there. A carry into the next
binade is the next magnitude, because magnitudes are consecutive across binades.
-/

namespace BlockLang.Binary64

/-- The whole number nearest to a quotient, the even one on a tie. -/
def roundQuotient (numerator denominator : Nat) : Nat :=
  let quotient := numerator / denominator
  let twice := 2 * (numerator % denominator)
  if twice < denominator then quotient
  else if denominator < twice then quotient + 1
  else quotient + quotient % 2

/-- The number of doublings from the finest spacing to that of the binade of a quotient of units. -/
def binadeShift (units : Nat) : Nat := units.log2 - 52

/-- The magnitude nearest to a quotient; a quotient too large for a finite one gives infinity. -/
def nearestMagnitude (numerator denominator : Nat) : Nat :=
  let scaled := numerator <<< unitPlaces
  let shift := binadeShift (scaled / denominator)
  min infinityMagnitude (shift * binadeSize + roundQuotient scaled (denominator <<< shift))

theorem nearestMagnitude_lt (numerator denominator : Nat) :
    nearestMagnitude numerator denominator < 0x8000000000000000 :=
  Nat.lt_of_le_of_lt (Nat.min_le_left _ _) (by decide)

/-- The nonnegative number nearest to a quotient. -/
def ofQuotient (numerator denominator : Nat) : Binary64 where
  negative := false
  magnitude := nearestMagnitude numerator denominator
  magnitude_lt := nearestMagnitude_lt numerator denominator

@[simp] theorem ofQuotient_negative (numerator denominator : Nat) :
    (ofQuotient numerator denominator).negative = false := rfl

/-- A rounded quotient is never NaN. -/
@[simp] theorem ofQuotient_isNaN (numerator denominator : Nat) :
    (ofQuotient numerator denominator).isNaN = false :=
  decide_eq_false (Nat.not_lt.mpr (Nat.min_le_left _ _))

end BlockLang.Binary64
