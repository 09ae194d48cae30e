/-!
# Binary64 numbers

A binary64 number is a sign and a magnitude below `2 ^ 63`. Magnitudes are ordered as the absolute
values they stand for: the fields of exponent and fraction are the quotient and the remainder by
`2 ^ 52`. Every finite absolute value is a whole number of units, where a unit is the smallest
positive number.
-/

namespace BlockLang

/-- A double precision number, NaN and infinities included, kept as sign and magnitude. -/
structure Binary64 where
  negative : Bool
  magnitude : Nat
  magnitude_lt : magnitude < 0x8000000000000000
  deriving DecidableEq

namespace Binary64

/-- The smallest positive number is two to the power of minus this number, one unit. Powers with
this exponent are too large to be unfolded by accident. -/
@[irreducible] def unitPlaces : Nat := 1074

/-- The number of magnitudes that share an exponent field, `2 ^ 52`. -/
def binadeSize : Nat := 0x10000000000000

/-- The magnitude of infinity: the largest exponent field over an empty fraction field. -/
def infinityMagnitude : Nat := 0x7ff0000000000000

/-- The number with the given 64 bits; higher bits are dropped. -/
def ofBits (bits : Nat) : Binary64 where
  negative := bits.testBit 63
  magnitude := bits % 0x8000000000000000
  magnitude_lt := Nat.mod_lt _ (by decide)

instance : Inhabited Binary64 := ⟨ofBits 0⟩

def isNaN (x : Binary64) : Bool := infinityMagnitude < x.magnitude

def isInfinite (x : Binary64) : Bool := x.magnitude == infinityMagnitude

def isFinite (x : Binary64) : Bool := x.magnitude < infinityMagnitude

/-- The absolute value of a finite magnitude in units: the fraction alone when the
exponent field is zero, and otherwise the fraction with its leading one, shifted. -/
def unitsOf (magnitude : Nat) : Nat :=
  if magnitude < binadeSize then magnitude
  else (binadeSize + magnitude % binadeSize) <<< (magnitude / binadeSize - 1)

/-- The absolute value of a finite number in units. -/
def units (x : Binary64) : Nat := unitsOf x.magnitude

/-- Numbers compare by value: NaN differs from every number and the two zeros are equal. -/
def same (x y : Binary64) : Bool :=
  !x.isNaN && !y.isNaN && x.magnitude == y.magnitude &&
    (x.negative == y.negative || x.magnitude == 0)

/-- A number is the same as itself exactly when it is not NaN. -/
theorem same_self (x : Binary64) : same x x = !x.isNaN := by
  simp [same]

end Binary64

end BlockLang
