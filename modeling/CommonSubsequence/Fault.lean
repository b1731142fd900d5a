/-
  CommonSubsequence.Fault — the ways in which an access can fail.

  A fault is a cause, not a text: `Fault.message` is the one place where the wording lives.
  Checked accesses hand a fault back as a value (`Except Fault α`); an access whose caller
  promises success abandons the whole action with it.
-/

namespace CommonSubsequence

/-! ## §1. Causes. -/

/-- Why an access to a sequence or a grid failed. -/
inductive Fault where
  /-- No element at `index` in a sequence of the given size. -/
  | indexOutOfRange (index size : Nat)
  /-- No cell at `(row, column)` in a grid of `rows` by `columns` cells. -/
  | cellOutOfRange (row column rows columns : Nat)
  /-- The operation has no meaning for the thing it was asked of. -/
  | unsupported (what : String)
  /-- The number of cells of a new grid, empty axes left out, is no signed 64-bit number. -/
  | shapeTooLarge
  /-- The cells of a new grid are countable, but their bytes exceed every allocation. -/
  | capacityExceeded
deriving DecidableEq, Repr, Inhabited

namespace Fault

/-- The fault of every write to a grid that can only be read. -/
def readOnly : Fault :=
  .unsupported "set_value on a read-only grid"

/-! ## §2. Wording. -/

/-- The text that reports the fault. -/
def message : Fault → String
  | indexOutOfRange index size =>
    s!"index {index} out of bounds for sequence of length {size}"
  | cellOutOfRange row column rows columns =>
    s!"cell ({row}, {column}) out of bounds for {rows}x{columns} grid"
  | unsupported what => "unsupported operation: " ++ what
  | shapeTooLarge =>
    "ndarray: Shape too large, product of non-zero axis lengths overflows isize"
  | capacityExceeded => "capacity overflow"

instance : ToString Fault := ⟨message⟩

end Fault

end CommonSubsequence
