/-!
# Ranges of code points

The classes of characters that are too large for a case distinction are kept as tables: lists of
inclusive code point ranges in increasing order.
-/

namespace TextMacro.Text

/-- Whether a character lies in one of some inclusive code point ranges. -/
def inRanges (ranges : List (Nat × Nat)) (c : Char) : Bool :=
  ranges.any fun range => range.1 ≤ c.toNat && c.toNat ≤ range.2

/-- A character lies in some ranges if it lies between the ends of one of them. -/
theorem inRanges_iff {ranges : List (Nat × Nat)} {c : Char} :
    inRanges ranges c = true ↔ ∃ range ∈ ranges, range.1 ≤ c.toNat ∧ c.toNat ≤ range.2 := by
  simp [inRanges]

end TextMacro.Text
