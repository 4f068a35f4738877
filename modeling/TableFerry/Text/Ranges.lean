/-!
Membership in ascending lists of closed ranges of code points.
-/
namespace TableFerry.Text

/-- Whether `n` lies in one of the ranges; the search ends at the first range that starts above `n`. -/
def inRanges (n : Nat) : List (Nat × Nat) → Bool
  | [] => false
  | (first, last) :: rest => if n < first then false else n ≤ last || inRanges n rest

end TableFerry.Text
