/-!
# Tables of code points

A character class of the Unicode standard is a short ascending list of inclusive ranges.  The
classes themselves stand in modules of their own (`Text.Alphanumeric`, `Text.Printable`); here is
only how a table is read.
-/

namespace ShaderWeave.Text

/-- Inclusive ranges of code points, in ascending order. -/
abbrev Ranges := List (Nat × Nat)

namespace Ranges

/-- A code point is in the table when one of the ranges spans it. -/
def spans (table : Ranges) (point : Nat) : Bool :=
  table.any fun range => decide (range.1 ≤ point) && decide (point ≤ range.2)

end Ranges

end ShaderWeave.Text
