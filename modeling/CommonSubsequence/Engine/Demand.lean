/-
  CommonSubsequence.Engine.Demand — what a query makes an engine compute.

  Sizes are known without the grid; cells, lengths and paths are not.  Reading a cell computes the
  grid even at coordinates outside of it, unless a transposed layer, which checks coordinates
  against its own shape first, turns the read away.  A path is walked for when it is asked for and
  not stored, and a walk of its own is made for every query that asks for a new one.
-/
import CommonSubsequence.Engine.Session

namespace CommonSubsequence

/-! ## §1. Cells behind layers. -/

namespace Cells

/-- A shape seen through one layer. -/
def Layer.shape : Layer → Nat × Nat → Nat × Nat
  | .transposed, (rows, columns) => (columns, rows)
  | .shared, s => s
  | .exclusive, s => s

/-- A shape seen through a stack of layers, the first of them innermost. -/
def shapeUnder (layers : List Layer) (shape : Nat × Nat) : Nat × Nat :=
  layers.foldl (fun s l => l.shape s) shape

/-- Coordinates lie inside a shape. -/
def inside (shape : Nat × Nat) (row column : Nat) : Bool :=
  decide (row < shape.1) && decide (column < shape.2)

theorem inside_iff {shape : Nat × Nat} {row column : Nat} :
    inside shape row column = true ↔ row < shape.1 ∧ column < shape.2 := by
  rw [inside, Bool.and_eq_true, decide_eq_true_iff, decide_eq_true_iff]

/-- A read at some coordinates of the outermost layer comes through to the grid of the given
shape: no layer is transposed, or the coordinates lie inside the outermost shape. -/
def passes (layers : List Layer) (shape : Nat × Nat) (row column : Nat) : Bool :=
  !layers.contains .transposed || inside (shapeUnder layers shape) row column

/-- The query comes to read a cell of the grid of the given shape behind the layers. -/
def Query.reaches (layers : List Layer) (shape : Nat × Nat) : Query → Bool
  | .rowCount => false
  | .columnCount => false
  | .shape => false
  | .read row column => passes layers shape row column
  | .value row column => passes layers shape row column
  | .write .. => false
  | .assign .. => false
  | .dump => inside shape 0 0

@[simp] theorem shapeUnder_nil (shape : Nat × Nat) : shapeUnder [] shape = shape := rfl

@[simp] theorem shapeUnder_cons (l : Layer) (ls : List Layer) (shape : Nat × Nat) :
    shapeUnder (l :: ls) shape = shapeUnder ls (l.shape shape) := rfl

/-- A shape without an empty axis has none behind layers either. -/
theorem inside_shapeUnder_zero (layers : List Layer) (shape : Nat × Nat) :
    inside (shapeUnder layers shape) 0 0 = inside shape 0 0 := by
  induction layers generalizing shape with
  | nil => rfl
  | cons l ls ih =>
    rw [shapeUnder_cons, ih]
    cases l with
    | transposed => exact Bool.and_comm _ _
    | shared => rfl
    | exclusive => rfl

end Cells

/-! ## §2. Queries to an engine. -/

namespace Engine.Query

variable {α β : Type}

/-- The grid of the problem must be there to answer the query. -/
def needsGrid (p : Problem α β) : Query α β → Bool
  | .cellCount => false
  | .rows _ => false
  | .columns _ => false
  | .table layers q => q.reaches layers (p.rows.size + 1, p.columns.size + 1)
  | .length => true
  | .backtrack => true
  | .pathIsBacktrack => true
  | .grid _ _ => true
  | .gridText => true
  | .pairs => true
  | .path _ => true
  | .common _ => true

/-- The query makes a walk of its own, whatever is stored. -/
def walksAnew : Query α β → Bool
  | .backtrack => true
  | .pathIsBacktrack => true
  | _ => false

/-- The query asks for the stored path, which is walked for if it is missing. -/
def readsPath : Query α β → Bool
  | .pathIsBacktrack => true
  | .pairs => true
  | .path _ => true
  | .common _ => true
  | _ => false

/-- A walk needs the grid. -/
theorem needsGrid_of_walks {p : Problem α β} {q : Query α β}
    (h : q.walksAnew = true ∨ q.readsPath = true) : q.needsGrid p = true := by
  cases q <;> first | rfl | (rcases h with h | h <;> cases h)

end Engine.Query

end CommonSubsequence
