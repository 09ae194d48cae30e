import BlockLang.Number.Shortest

/-!
# Rounding is exact on finite values

A quotient is rounded by its value alone, and the value of a finite magnitude is rounded to that
magnitude. So the shortest decimal of a finite number reads back as the number, on whatever grid it
was found.
-/

namespace BlockLang.Binary64

/-- A common factor makes no difference to a quotient that is rounded. -/
theorem roundQuotient_mul_right (numerator denominator : Nat) {factor : Nat}
    (positive : 0 < factor) :
    roundQuotient (numerator * factor) (denominator * factor) =
      roundQuotient numerator denominator := by
  have below : 2 * (numerator % denominator * factor) < denominator * factor ↔
      2 * (numerator % denominator) < denominator := by
    rw [← Nat.mul_assoc]
    exact Nat.mul_lt_mul_right positive
  have above : denominator * factor < 2 * (numerator % denominator * factor) ↔
      denominator < 2 * (numerator % denominator) := by
    rw [← Nat.mul_assoc]
    exact Nat.mul_lt_mul_right positive
  simp only [roundQuotient, Nat.mul_div_mul_right _ _ positive, Nat.mul_mod_mul_right, below, above]

theorem nearestMagnitude_mul_right (numerator denominator : Nat) {factor : Nat}
    (positive : 0 < factor) :
    nearestMagnitude (numerator * factor) (denominator * factor) =
      nearestMagnitude numerator denominator := by
  have scaled : (numerator * factor) <<< unitPlaces = numerator <<< unitPlaces * factor := by
    rw [Nat.shiftLeft_eq, Nat.shiftLeft_eq, Nat.mul_right_comm]
  have spaced (shift : Nat) :
      (denominator * factor) <<< shift = denominator <<< shift * factor := by
    rw [Nat.shiftLeft_eq, Nat.shiftLeft_eq, Nat.mul_right_comm]
  simp only [nearestMagnitude, scaled, spaced, Nat.mul_div_mul_right _ _ positive,
    roundQuotient_mul_right _ _ positive]

/-- Equal quotients are rounded alike. -/
theorem nearestMagnitude_eq_of_cross_mul_eq {numerator denominator numerator' denominator' : Nat}
    (positive : 0 < denominator) (positive' : 0 < denominator')
    (equal : numerator * denominator' = numerator' * denominator) :
    nearestMagnitude numerator denominator = nearestMagnitude numerator' denominator' := by
  calc nearestMagnitude numerator denominator
    _ = nearestMagnitude (numerator * denominator') (denominator * denominator') :=
        (nearestMagnitude_mul_right _ _ positive').symm
    _ = nearestMagnitude (numerator' * denominator) (denominator' * denominator) := by
        rw [equal, Nat.mul_comm denominator]
    _ = nearestMagnitude numerator' denominator' := nearestMagnitude_mul_right _ _ positive

theorem roundQuotient_of_dvd (quotient : Nat) {denominator : Nat} (positive : 0 < denominator) :
    roundQuotient (quotient * denominator) denominator = quotient := by
  simp [roundQuotient, Nat.mul_div_cancel _ positive, positive]

theorem log2_shiftLeft {number : Nat} (nonzero : number ≠ 0) (places : Nat) :
    (number <<< places).log2 = number.log2 + places := by
  induction places with
  | zero => rfl
  | succ places ih =>
      have shifted : number <<< places ≠ 0 := by
        rw [Nat.shiftLeft_eq]
        exact Nat.mul_ne_zero nonzero (Nat.ne_of_gt (Nat.two_pow_pos places))
      rw [Nat.shiftLeft_succ, Nat.log2_two_mul shifted, ih, Nat.add_assoc]

/-- The binade of a finite value is that of its magnitude. -/
theorem binadeShift_unitsOf (magnitude : Nat) :
    binadeShift (unitsOf magnitude) = magnitude / binadeSize - 1 := by
  rw [binadeShift, unitsOf]
  by_cases small : magnitude < binadeSize
  · rw [if_pos small, Nat.div_eq_of_lt small]
    by_cases zero : magnitude = 0
    · rw [zero, Nat.log2_zero]
    · have below : magnitude.log2 < 52 := (Nat.log2_lt zero).mpr small
      omega
  · have inside : magnitude % binadeSize < binadeSize := Nat.mod_lt _ (by decide)
    have leading : (binadeSize + magnitude % binadeSize).log2 = 52 := by
      rw [Nat.log2_eq_iff (by omega)]
      simp only [binadeSize] at *
      omega
    have nonzero : binadeSize + magnitude % binadeSize ≠ 0 := by omega
    rw [if_neg small, log2_shiftLeft nonzero, leading, Nat.add_sub_cancel_left]

/-- A finite value is rounded to its magnitude. -/
theorem nearestMagnitude_unitsOf {magnitude : Nat} (finite : magnitude < infinityMagnitude) :
    nearestMagnitude (unitsOf magnitude) (1 <<< unitPlaces) = magnitude := by
  have positive : 0 < 1 <<< unitPlaces := by
    rw [Nat.one_shiftLeft]
    exact Nat.two_pow_pos _
  have scaled : unitsOf magnitude <<< unitPlaces = unitsOf magnitude * 1 <<< unitPlaces := by
    rw [Nat.shiftLeft_eq, Nat.one_shiftLeft]
  have spaced (shift : Nat) : (1 <<< unitPlaces) <<< shift = 1 <<< shift * 1 <<< unitPlaces := by
    rw [Nat.shiftLeft_eq, Nat.one_shiftLeft shift, Nat.mul_comm]
  have rounded : (magnitude / binadeSize - 1) * binadeSize +
      roundQuotient (unitsOf magnitude) (1 <<< (magnitude / binadeSize - 1)) = magnitude := by
    rw [unitsOf]
    by_cases small : magnitude < binadeSize
    · have whole := roundQuotient_of_dvd magnitude (Nat.one_pos)
      rw [Nat.mul_one] at whole
      simpa [if_pos small, Nat.div_eq_of_lt small] using whole
    · have decomposed := Nat.div_add_mod magnitude binadeSize
      have large : binadeSize ≤ magnitude / binadeSize * binadeSize :=
        Nat.le_mul_of_pos_left _ (Nat.div_pos (Nat.le_of_not_lt small) (by decide))
      rw [Nat.mul_comm] at decomposed
      rw [if_neg small, Nat.shiftLeft_eq, Nat.one_shiftLeft,
        roundQuotient_of_dvd _ (Nat.two_pow_pos _), Nat.sub_mul, Nat.one_mul]
      omega
  rw [nearestMagnitude, scaled, Nat.mul_div_cancel _ positive, binadeShift_unitsOf, spaced,
    roundQuotient_mul_right _ _ positive, rounded]
  exact Nat.min_eq_right (Nat.le_of_lt finite)

end BlockLang.Binary64

namespace BlockLang.Decimal

open Binary64 (unitPlaces unitsOf nearestMagnitude)

/-- The exact value of a finite magnitude reads back as the magnitude. -/
theorem magnitude_exact {magnitude : Nat} (finite : magnitude < Binary64.infinityMagnitude) :
    (exact magnitude).magnitude = magnitude := by
  have fives : 0 < Nat.pow 5 unitPlaces := Nat.pow_pos (by decide)
  have tens : Nat.pow 10 unitPlaces = 1 <<< unitPlaces * Nat.pow 5 unitPlaces := by
    rw [Nat.one_shiftLeft]
    exact Nat.mul_pow 2 5 unitPlaces
  have points : (exact magnitude).points = unitsOf magnitude * Nat.pow 5 unitPlaces :=
    Nat.mul_one _
  rw [Decimal.magnitude, points, tens, Binary64.nearestMagnitude_mul_right _ _ fives]
  exact Binary64.nearestMagnitude_unitsOf finite

/-- The shortest decimal of a finite magnitude reads back as the magnitude. -/
theorem magnitude_shortest {magnitude : Nat} (finite : magnitude < Binary64.infinityMagnitude) :
    (shortest magnitude).magnitude = magnitude :=
  coarsest_magnitude (magnitude_exact finite) _

end BlockLang.Decimal
