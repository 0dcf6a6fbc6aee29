import RouteScript.Text.Symbol

/-!
# Classes of code points

A class of code points is written as its maximal intervals in increasing order.
-/

namespace RouteScript

/-- A set of code points, as closed intervals in increasing order. -/
abbrev CodeRanges := List (Nat × Nat)

def CodeRanges.has (rs : CodeRanges) (n : Nat) : Bool := rs.any fun r => r.1 ≤ n && n ≤ r.2

end RouteScript
