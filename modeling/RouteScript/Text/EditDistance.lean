/-!
# Edit distance

The least number of insertions, deletions and replacements that turn one list into another, computed
row by row.
-/

namespace RouteScript

variable {α : Type} [DecidableEq α]

/-- The distances beyond the first of a new row: `above` is the row before, from `diagonal` on, and
`left` is the distance found just before. -/
def editRow (a : α) : (bs : List α) → (diagonal left : Nat) → (above : List Nat) → List Nat
  | b :: bs, diagonal, left, up :: above =>
    let best := min (min (left + 1) (up + 1)) (if a = b then diagonal else diagonal + 1)
    best :: editRow a bs up best above
  | _, _, _, _ => []

/-- The distances to every initial part of `bs` after one more member `a` on the other side. -/
def nextEditRow (bs : List α) (row : List Nat) (a : α) : List Nat :=
  match row with
  | [] => []
  | first :: above => (first + 1) :: editRow a bs first (first + 1) above

def editDistance (as bs : List α) : Nat :=
  ((as.foldl (nextEditRow bs) (List.range (bs.length + 1))).getLast?).getD 0

end RouteScript
