/-!
# Ranges of characters

A character property is a table of inclusive code point ranges.
-/

namespace BlockLang.Text

/-- A character lies in a table when one of its inclusive ranges holds its code point. -/
def inRanges (ranges : Array (Nat × Nat)) (c : Char) : Bool :=
  ranges.any fun range => range.1 ≤ c.toNat && c.toNat ≤ range.2

/-- A table is searched as the list of its ranges. -/
theorem inRanges_eq_any_toList (ranges : Array (Nat × Nat)) (c : Char) :
    inRanges ranges c =
      ranges.toList.any fun range => range.1 ≤ c.toNat && c.toNat ≤ range.2 := by
  rw [inRanges, Array.any_toList]

theorem inRanges_iff (ranges : Array (Nat × Nat)) (c : Char) :
    inRanges ranges c = true ↔ ∃ range ∈ ranges, range.1 ≤ c.toNat ∧ c.toNat ≤ range.2 := by
  simp only [inRanges, Array.any_eq_true', Bool.and_eq_true, decide_eq_true_eq]

end BlockLang.Text
