import UriRouter.Text.Data.Folding

/-!
# Matching without regard to case

Simple case folding tells some characters from one another only by case. Each such character has
the others as its relatives.

* `Shift.imageOf` : where a shift sends the code points of a range;
* `relativesOf` : the relatives of the code points of a range.
-/

set_option autoImplicit false

namespace UriRouter.Text

/-- Every second code point, `count` in all, each as a range of its own. -/
def everySecond : Nat → Nat → List (Nat × Nat)
  | _, 0 => []
  | n, count + 1 => (n, n) :: everySecond (n + 2) count

/-- Where a shift sends the code points from `lo` to `hi` that it covers, as ranges in ascending
order. -/
def Shift.imageOf (s : Shift) (lo hi : Nat) : List (Nat × Nat) :=
  if hi < s.first || s.last < lo then []
  else
    let first := s.first + (max lo s.first - s.first + (s.step - 1)) / s.step * s.step
    let last := min hi s.last
    if last < first then []
    else if s.step = 1 then [(s.target + (first - s.first), s.target + (last - s.first))]
    else everySecond (s.target + (first - s.first)) ((last - first) / 2 + 1)

/-- The relatives of the code points from `lo` to `hi`, as ranges in no order. -/
def relativesOf (lo hi : Nat) : List (Nat × Nat) := relativeShifts.flatMap fun s => s.imageOf lo hi

end UriRouter.Text
