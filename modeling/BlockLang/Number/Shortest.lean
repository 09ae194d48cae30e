import BlockLang.Number.Nearest

/-!
# Shortest decimals

Decimals are counted on grids whose spacing is a power of ten. The finest has as many places as the
binary unit, so every finite binary64 value lies on it. The shortest decimal of a value lies on the
coarsest grid that has a point which reads back as the value. If a grid has such a point, then the
value has such a neighbour on it, so only two points of each grid are tried: of two hits the nearer
wins, and a tie goes up.
-/

namespace BlockLang

/-- A nonnegative decimal `coefficient * 10 ^ grid`, counted on the finest grid. -/
structure Decimal where
  coefficient : Nat
  grid : Nat
  deriving DecidableEq, Inhabited

namespace Decimal

/-- A decimal as a whole number of points of the finest grid. -/
def points (d : Decimal) : Nat := d.coefficient * Nat.pow 10 d.grid

/-- The magnitude that a decimal reads back as. -/
def magnitude (d : Decimal) : Nat :=
  Binary64.nearestMagnitude d.points (Nat.pow 10 Binary64.unitPlaces)

/-- The exact value of a binary64 magnitude, on the finest grid: a half is five tenths, so a unit is
as many points as the power of five with its number of places. -/
def exact (magnitude : Nat) : Decimal :=
  ⟨Binary64.unitsOf magnitude * Nat.pow 5 Binary64.unitPlaces, 0⟩

/-- The two neighbours of a value on a grid, the nearer first; on a tie the upper first. -/
def neighbors (value grid : Nat) : List Decimal :=
  let spacing := Nat.pow 10 grid
  let below : Decimal := ⟨value / spacing, grid⟩
  let above : Decimal := ⟨value / spacing + 1, grid⟩
  if 2 * (value % spacing) < spacing then [below, above] else [above, below]

/-- The nearest neighbour of a value on a grid that reads back as the given magnitude. -/
def neighbor? (magnitude value grid : Nat) : Option Decimal :=
  (neighbors value grid).find? fun d => d.magnitude == magnitude

/-- The first neighbour that reads back, from the given grid down to the finest, where the value
itself stands. -/
def coarsest (magnitude value : Nat) : Nat → Decimal
  | 0 => ⟨value, 0⟩
  | grid + 1 => (neighbor? magnitude value (grid + 1)).getD (coarsest magnitude value grid)

/-- No number has more digits than this, because 0.30103 is above the common logarithm of two. -/
def digitBound (number : Nat) : Nat := (number.log2 + 1) * 30103 / 100000 + 1

/-- The shortest decimal that reads back as a magnitude, and of those the nearest. -/
def shortest (magnitude : Nat) : Decimal :=
  let value := (exact magnitude).coefficient
  coarsest magnitude value (digitBound value)

/-- A neighbour that is found reads back. -/
theorem neighbor?_magnitude {magnitude value grid : Nat} {d : Decimal}
    (found : neighbor? magnitude value grid = some d) : d.magnitude = magnitude := by
  simpa using List.find?_some found

/-- The search ends at a decimal that reads back if the value itself does. -/
theorem coarsest_magnitude {magnitude value : Nat}
    (reads : (⟨value, 0⟩ : Decimal).magnitude = magnitude) (grid : Nat) :
    (coarsest magnitude value grid).magnitude = magnitude := by
  induction grid with
  | zero => exact reads
  | succ grid ih =>
      rw [coarsest]
      cases found : neighbor? magnitude value (grid + 1) with
      | none => exact ih
      | some d => exact neighbor?_magnitude found

end Decimal

end BlockLang
