/-
  CommonSubsequence.Grid.Query — what can be asked of a grid seen from outside, and the answers.

  Each access comes in two forms: checked, whose answer is a result that may be a fault, and
  promised, which is abandoned with the fault instead.
-/
import CommonSubsequence.Grid.Cells

namespace CommonSubsequence.Cells

universe v
variable {m : Type → Type v}

/-! ## §1. Queries and answers. -/

/-- One thing to ask of a grid. -/
inductive Query where
  | rowCount
  | columnCount
  /-- The number of rows and then the number of columns. -/
  | shape
  /-- A cell, or a fault as a value. -/
  | read (row column : Nat)
  /-- A cell that is promised to be there. -/
  | value (row column : Nat)
  /-- Replace a cell, or a fault as a value. -/
  | write (row column : Nat) (value : Int32)
  /-- Replace a cell that is promised to be there and to be writable. -/
  | assign (row column : Nat) (value : Int32)
  /-- All cells, all of them promised. -/
  | dump
deriving DecidableEq, Repr

/-- What a grid answers. -/
inductive Answer where
  | count (n : Nat)
  | shape (rows columns : Nat)
  | read (result : Except Fault Int32)
  | value (v : Int32)
  | written (result : Except Fault Unit)
  | assigned
  | dump (rows : List (List Int32))

/-! ## §2. Answering. -/

/-- The answer of a grid to a query; the outer result says whether the query was abandoned. -/
def answer [Monad m] (v : Cells m) : Query → m (Except Fault Answer)
  | .rowCount => do pure (.ok (.count (← v.rowCount)))
  | .columnCount => do pure (.ok (.count (← v.columnCount)))
  | .shape => do
    let rows ← v.rowCount
    let columns ← v.columnCount
    pure (.ok (.shape rows columns))
  | .read row column => do pure (.ok (.read (← v.read row column)))
  | .value row column => do pure ((← v.read row column).map .value)
  | .write row column value => do pure (.ok (.written (← v.write row column value)))
  | .assign row column value => do pure ((← v.write row column value).map fun _ => .assigned)
  | .dump => do pure ((← v.dump).map .dump)

end CommonSubsequence.Cells
