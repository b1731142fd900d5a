/-
  CommonSubsequence.Grid.Cells — anything that can be read, and perhaps written, like a grid.

  `Cells m` is a grid seen from outside: its shape, a checked read and a checked write, each an
  action of the monad `m`.  A grid held in a state is one (`Grid.stored`), a grid value is a
  read-only one (`Grid.reading`), and layers go around any of them: transposition, a reference
  through which nothing can be written, a reference that hands everything on.
-/
import CommonSubsequence.Grid.Basic

namespace CommonSubsequence

universe v
variable {m : Type → Type v}

/-! ## §1. The interface. -/

/-- A grid as its users see it. -/
structure Cells (m : Type → Type v) where
  rowCount : m Nat
  columnCount : m Nat
  /-- The cell at some coordinates. -/
  read : (row column : Nat) → m (Except Fault Int32)
  /-- Replace the cell at some coordinates. -/
  write : (row column : Nat) → (value : Int32) → m (Except Fault Unit)

namespace Cells

/-- The write of a grid that can only be read. -/
def refuse [Monad m] (_row _column : Nat) (_value : Int32) : m (Except Fault Unit) :=
  pure (.error .readOnly)

/-- Whether coordinates lie inside a shape; the fault names both. -/
def bounds (rows columns row column : Nat) : Except Fault Unit :=
  if row < rows ∧ column < columns then .ok ()
  else .error (.cellOutOfRange row column rows columns)

/-! ## §2. Layers. -/

/-- One layer around a grid. -/
inductive Layer where
  /-- Rows and columns change places. -/
  | transposed
  /-- Reads are handed on, writes are refused. -/
  | shared
  /-- Reads and writes are handed on. -/
  | exclusive
deriving DecidableEq, Repr

/-- The grid with rows and columns exchanged.  Coordinates are checked against the exchanged shape
before they are handed on, for writes as for reads. -/
def transpose [Monad m] (v : Cells m) : Cells m where
  rowCount := v.columnCount
  columnCount := v.rowCount
  read row column := do
    let rows ← v.columnCount
    let columns ← v.rowCount
    match bounds rows columns row column with
    | .ok () => v.read column row
    | .error f => pure (.error f)
  write row column value := do
    let rows ← v.columnCount
    let columns ← v.rowCount
    match bounds rows columns row column with
    | .ok () => v.write column row value
    | .error f => pure (.error f)

/-- The grid behind a reference through which nothing can be written. -/
def share [Monad m] (v : Cells m) : Cells m :=
  { v with write := refuse }

/-- The grid with one more layer around it. -/
def Layer.around [Monad m] (v : Cells m) : Layer → Cells m
  | .transposed => v.transpose
  | .shared => v.share
  | .exclusive => v

/-- The grid behind a stack of layers, the first of them innermost. -/
def under [Monad m] (v : Cells m) (layers : List Layer) : Cells m :=
  layers.foldl Layer.around v

@[simp] theorem under_nil [Monad m] (v : Cells m) : v.under [] = v := rfl

@[simp] theorem under_cons [Monad m] (v : Cells m) (l : Layer) (ls : List Layer) :
    v.under (l :: ls) = (l.around v).under ls := rfl

/-- The last layer of a stack is the one that is met first. -/
theorem under_append_singleton [Monad m] (v : Cells m) (ls : List Layer) (l : Layer) :
    v.under (ls ++ [l]) = l.around (v.under ls) := by
  simp [under]

/-! ## §3. Reading every cell. -/

/-- The results of `f` at `n` consecutive arguments from `i` on; the first fault ends it. -/
def collect {μ : Type → Type v} [Monad μ] {α : Type} (f : Nat → μ α) : (n i : Nat) → μ (List α)
  | 0, _ => pure []
  | n + 1, i => do
    let x ← f i
    let xs ← collect f n (i + 1)
    pure (x :: xs)

/-- All cells, row by row, up to the first that cannot be read. -/
def dump [Monad m] (v : Cells m) : m (Except Fault (List (List Int32))) := do
  let rows ← v.rowCount
  let columns ← v.columnCount
  (collect (fun r => collect (fun c => ExceptT.mk (v.read r c)) columns 0) rows 0).run

/-! ## §4. Comparing two grids. -/

/-- Two checked reads came out alike: the same cell value, or the same fault. -/
def alike : Except Fault Int32 → Except Fault Int32 → Bool
  | .ok x, .ok y => x == y
  | .error f, .error g => f == g
  | _, _ => false

theorem alike_iff {x y : Except Fault Int32} : alike x y = true ↔ x = y := by
  cases x <;> cases y <;> simp [alike]

/-- Every number below `n` passes the test. -/
def allBelow (n : Nat) (p : Nat → Bool) : Bool :=
  n.all fun i _ => p i

/-- Two grids have the same shape, and reading any cell of it comes out alike.  The test for a grid
without columns changes no answer: no row of it has a cell to compare, so the rows are not gone
through. -/
def equal (a b : Cells Id) : Bool :=
  let rows := a.rowCount.run
  let columns := a.columnCount.run
  rows == b.rowCount.run && columns == b.columnCount.run &&
    (columns == 0 ||
      allBelow rows fun r => allBelow columns fun c => alike (a.read r c).run (b.read r c).run)

/-- The test of all numbers below `n` says what it is meant to say. -/
theorem allBelow_iff {n : Nat} {p : Nat → Bool} : allBelow n p = true ↔ ∀ i < n, p i = true := by
  unfold allBelow
  induction n with
  | zero => simp
  | succ n ih => rw [Nat.all_succ, Bool.and_eq_true, ih, Nat.forall_lt_succ_right]

/-- Two grids of one shape that answer every read of it alike are equal. -/
theorem equal_of_read {a b : Cells Id} (hrows : a.rowCount.run = b.rowCount.run)
    (hcolumns : a.columnCount.run = b.columnCount.run)
    (hread : ∀ r c, (a.read r c).run = (b.read r c).run) : equal a b = true := by
  have hcells : (allBelow b.rowCount.run fun r => allBelow b.columnCount.run fun c =>
      alike (a.read r c).run (b.read r c).run) = true :=
    allBelow_iff.2 fun r _ => allBelow_iff.2 fun c _ => alike_iff.2 (hread r c)
  unfold equal
  dsimp only
  rw [hrows, hcolumns, hcells]
  simp

end Cells

/-! ## §5. Grids that are values. -/

namespace Grid

/-- The grid held in the state: writes go to it. -/
def stored : Cells (StateM Grid) where
  rowCount := fun g => (g.rows, g)
  columnCount := fun g => (g.columns, g)
  read row column := fun g => (g.read row column, g)
  write row column value := fun g =>
    if h : g.InRange row column then (.ok (), g.set row column value h)
    else (.error (g.outOfRange row column), g)

/-- A grid value, which can only be read. -/
def reading [Monad m] (g : Grid) : Cells m where
  rowCount := pure g.rows
  columnCount := pure g.columns
  read row column := pure (g.read row column)
  write := Cells.refuse

@[simp] theorem rowCount_stored (g : Grid) : stored.rowCount g = (g.rows, g) := rfl

@[simp] theorem columnCount_stored (g : Grid) : stored.columnCount g = (g.columns, g) := rfl

@[simp] theorem read_stored (g : Grid) (row column : Nat) :
    stored.read row column g = (g.read row column, g) := rfl

/-- A write to a stored grid stores what a write to its value gives, and a refused one stores
nothing. -/
theorem write_stored (g : Grid) (row column : Nat) (v : Int32) :
    stored.write row column v g =
      match g.write row column v with
      | .ok g' => (.ok (), g')
      | .error f => (.error f, g) := by
  by_cases h : g.InRange row column <;> simp [stored, write, h]

end Grid

/-! ## §6. Grids of slots. -/

/-- The fault of a slot that holds no cell. -/
def Fault.vacant : Fault :=
  .unsupported "missing cell"

/-- A read-only grid that declares a shape of its own over slots, some of which may be vacant.  A
read looks at the slots only, whatever the declared shape. -/
def Cells.ofSlots [Monad m] (rows columns : Nat) (slots : Array (Array (Option Int32))) :
    Cells m where
  rowCount := pure rows
  columnCount := pure columns
  read row column := pure <|
    match slots[row]?.bind fun cells => cells[column]?.join with
    | some v => .ok v
    | none => .error .vacant
  write := Cells.refuse

end CommonSubsequence
