/-
Tables of code point ranges. A property of characters beyond ASCII is a list of closed ranges in ascending order.
-/

namespace GlslInspect.Text

/-- closed ranges of code points, ascending -/
abbrev CodeRanges := List (Nat × Nat)

/-- whether a character lies in one of the ranges -/
def CodeRanges.has (ranges : CodeRanges) (c : Char) : Bool :=
  ranges.any fun range => decide (range.1 ≤ c.toNat) && decide (c.toNat ≤ range.2)

end GlslInspect.Text
