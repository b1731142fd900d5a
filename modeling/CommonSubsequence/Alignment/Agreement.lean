/-
  CommonSubsequence.Alignment.Agreement — verdicts for common kinds of element.

  None of them needs to be an equivalence: a number that is not one agrees with nothing, nearness
  is not transitive and with a tolerance on one side not symmetric, and a range agrees with points.
-/
import CommonSubsequence.Fault

namespace CommonSubsequence.Agreement

universe u v

/-! ## §1. Equal values, equal keys. -/

/-- The elements are equal. -/
def exact {α : Type u} [DecidableEq α] (x y : α) : Bool :=
  decide (x = y)

/-- An element that is known by its key and carries a label along. -/
structure Labelled (κ : Type u) (ι : Type v) where
  /-- What elements are compared by. -/
  key : κ
  /-- What comparison does not see. -/
  label : ι
deriving DecidableEq, Repr

/-- The keys are equal, whatever the labels. -/
def sameKey {κ : Type u} {ι : Type v} [DecidableEq κ] (x y : Labelled κ ι) : Bool :=
  decide (x.key = y.key)

/-! ## §2. Numbers. -/

/-- A number with the distance up to which it accepts another one. -/
structure Approximate where
  value : Int
  /-- The greatest distance that the number accepts. -/
  tolerance : Int
deriving DecidableEq, Repr

/-- The column value is within the tolerance of the row value; its own tolerance does not count. -/
def near (x y : Approximate) : Bool :=
  decide (((x.value - y.value).natAbs : Int) ≤ x.tolerance)

/-- The integers from `low` to `high`, both included. -/
structure Interval where
  low : Int
  high : Int
deriving DecidableEq, Repr

/-- The point lies in the interval. -/
def contains (x : Interval) (y : Int) : Bool :=
  decide (x.low ≤ y ∧ y ≤ x.high)

/-! ## §3. Binary floating point, given by its 64 bits. -/

/-- The bits without the sign, moved up by one place. -/
def magnitude (bits : UInt64) : UInt64 :=
  bits <<< 1

/-- The exponent is all ones and the fraction is not zero. -/
def isNaN (bits : UInt64) : Bool :=
  decide (0xFFE0000000000000 < magnitude bits)

/-- Numeric equality: nothing equals what is not a number, and both zeros are equal. -/
def binary64 (x y : UInt64) : Bool :=
  !isNaN x && !isNaN y && (x == y || (magnitude x == 0 && magnitude y == 0))

end CommonSubsequence.Agreement
