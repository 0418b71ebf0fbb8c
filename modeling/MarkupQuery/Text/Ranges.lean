/-!
# Sets of characters

A set of characters is a list of closed code point ranges.
-/

namespace MarkupQuery.Text

/-- Closed ranges of code points: first and last member of each. -/
abbrev Ranges := List (Nat × Nat)

/-- Membership in one of the ranges. -/
def Ranges.contains (table : Ranges) (c : Char) : Bool :=
  table.any fun r => r.1 ≤ c.toNat && c.toNat ≤ r.2

end MarkupQuery.Text
