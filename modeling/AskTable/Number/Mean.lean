import AskTable.Number.Binary64

/-!
# Sums, means and extremes

A long sum is split in halves, so that rounding errors stay small: up to 128 numbers are summed in
eight interleaved running sums, and more by the sums of two halves.

* `sum`, `mean`: the sum in that order, and its quotient by the count.
* `least`, `greatest`: the extremes of a list.
-/

namespace AskTable.Number

open Binary64

/-- One after the other. The start is a negative zero, which changes no number it is added to. -/
def plainSum (start : Binary64) (xs : List Binary64) : Binary64 := xs.foldl add start

/-- The sum of eight numbers in pairs, pairs of pairs and halves. -/
def sumOfEight : List Binary64 → Binary64
  | [a, b, c, d, e, f, g, h] =>
    add (add (add a b) (add c d)) (add (add e f) (add g h))
  | xs => plainSum negativeZero xs

/-- Eight running sums take the numbers in turn; what is left after the last full turn is added one
by one. -/
def interleavedSum (running : List Binary64) (xs : List Binary64) : Binary64 :=
  if _h : 8 ≤ xs.length then
    interleavedSum (List.zipWith add running (xs.take 8)) (xs.drop 8)
  else plainSum (sumOfEight running) xs
termination_by xs.length
decreasing_by simp; omega

/-- The length of the first half: a multiple of eight. -/
def halfLength (n : Nat) : Nat := n / 2 - n / 2 % 8

def sum (xs : List Binary64) : Binary64 :=
  if xs.length < 8 then plainSum negativeZero xs
  else if _h : xs.length ≤ 128 then interleavedSum (xs.take 8) (xs.drop 8)
  else
    let half := halfLength xs.length
    add (sum (xs.take half)) (sum (xs.drop half))
termination_by xs.length
decreasing_by
  · simp [halfLength]; omega
  · simp [halfLength]; omega

def mean (xs : List Binary64) : Binary64 := scaleDown (sum xs) xs.length

/-- The least of a number and those after it; of equal ones the last. -/
def least (first : Binary64) (xs : List Binary64) : Binary64 :=
  xs.foldl (fun m x => if lt m x then m else x) first

/-- The greatest of a number and those after it; of equal ones the last. -/
def greatest (first : Binary64) (xs : List Binary64) : Binary64 :=
  xs.foldl (fun m x => if lt x m then m else x) first

end AskTable.Number
