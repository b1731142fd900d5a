/-
  CommonSubsequence.Grid.Basic — rectangular grids of 32-bit integers.

  A grid owns its cells, row after row in one array whose size its type pins to the shape.  Reads
  and writes check their coordinates first; `get_set` says that a write changes exactly the cell
  it names.
-/
import CommonSubsequence.Fault

namespace CommonSubsequence

/-! ## §1. Shape and cells. -/

/-- A grid of `rows` by `columns` cells, stored row after row. -/
structure Grid where
  rows : Nat
  columns : Nat
  /-- The cells, row after row. -/
  cells : Array Int32
  /-- There is one cell for every pair of coordinates. -/
  size_cells : cells.size = rows * columns
deriving DecidableEq

namespace Grid

/-- The coordinates name a cell of the grid. -/
def InRange (g : Grid) (row column : Nat) : Prop :=
  row < g.rows ∧ column < g.columns

instance (g : Grid) (row column : Nat) : Decidable (g.InRange row column) :=
  inferInstanceAs (Decidable (_ ∧ _))

/-- The place of a cell in the array. -/
def place (g : Grid) (row column : Nat) : Nat :=
  row * g.columns + column

/-- A cell in range has a place in the array. -/
theorem place_lt {g : Grid} {row column : Nat} (h : g.InRange row column) :
    g.place row column < g.cells.size := by
  rw [g.size_cells]
  calc row * g.columns + column
      < row * g.columns + g.columns := Nat.add_lt_add_left h.2 _
    _ = (row + 1) * g.columns := (Nat.succ_mul _ _).symm
    _ ≤ g.rows * g.columns := Nat.mul_le_mul_right _ h.1

/-- Two cells in range share a place only if they share their coordinates. -/
theorem place_inj {g : Grid} {r c r' c' : Nat} (h : c < g.columns) (h' : c' < g.columns)
    (e : g.place r c = g.place r' c') : r = r' ∧ c = c' := by
  unfold place at e
  -- dividing by the length of a row leaves the number of the row
  have hr : r = r' := by
    have h1 := congrArg (· / g.columns) e
    have hpos : 0 < g.columns := Nat.lt_of_le_of_lt (Nat.zero_le _) h
    simpa [Nat.mul_add_div, Nat.mul_comm _ g.columns, hpos, Nat.div_eq_of_lt h,
      Nat.div_eq_of_lt h'] using h1
  subst hr
  exact ⟨rfl, Nat.add_left_cancel e⟩

/-! ## §2. Cells in range. -/

/-- The cell at coordinates in range. -/
def get (g : Grid) (row column : Nat) (h : g.InRange row column) : Int32 :=
  have := place_lt h
  g.cells[g.place row column]

/-- The grid with the cell at coordinates in range replaced. -/
def set (g : Grid) (row column : Nat) (value : Int32) (h : g.InRange row column) : Grid :=
  have hp := place_lt h
  { g with
    cells := g.cells.set (g.place row column) value hp
    size_cells := by rw [Array.size_set]; exact g.size_cells }

@[simp] theorem rows_set (g : Grid) (row column : Nat) (v : Int32) (h : g.InRange row column) :
    (g.set row column v h).rows = g.rows := rfl

@[simp] theorem columns_set (g : Grid) (row column : Nat) (v : Int32)
    (h : g.InRange row column) : (g.set row column v h).columns = g.columns := rfl

theorem inRange_set {g : Grid} {row column r c : Nat} {v : Int32} (h : g.InRange row column) :
    (g.set row column v h).InRange r c ↔ g.InRange r c := Iff.rfl

/-- A write changes the cell it names and no other. -/
theorem get_set {g : Grid} {row column r c : Nat} {v : Int32} (h : g.InRange row column)
    (h' : g.InRange r c) :
    (g.set row column v h).get r c h' =
      if row = r ∧ column = c then v else g.get r c h' := by
  have hp := place_lt h
  have hp' := place_lt h'
  have hs : g.place r c < (g.cells.set (g.place row column) v hp).size := by simpa using hp'
  show (g.cells.set (g.place row column) v hp)[g.place r c] = _
  rw [Array.getElem_set]
  by_cases e : row = r ∧ column = c
  · obtain ⟨rfl, rfl⟩ := e
    simp
  · rw [if_neg e, if_neg fun hpl => e (place_inj h.2 h'.2 hpl)]
    rfl

/-! ## §3. Checked access. -/

/-- The fault of coordinates that name no cell of the grid. -/
def outOfRange (g : Grid) (row column : Nat) : Fault :=
  .cellOutOfRange row column g.rows g.columns

/-- Read the cell at any coordinates. -/
def read (g : Grid) (row column : Nat) : Except Fault Int32 :=
  if h : g.InRange row column then .ok (g.get row column h) else .error (g.outOfRange row column)

/-- Write the cell at any coordinates. -/
def write (g : Grid) (row column : Nat) (value : Int32) : Except Fault Grid :=
  if h : g.InRange row column then .ok (g.set row column value h)
  else .error (g.outOfRange row column)

/-- Write several cells, one after the other, up to the first that cannot be written. -/
def writeAll (g : Grid) : List (Nat × Nat × Int32) → Except Fault Grid
  | [] => .ok g
  | (row, column, value) :: rest =>
    match g.write row column value with
    | .ok g' => g'.writeAll rest
    | .error f => .error f

/-- Coordinates in range are read without a fault. -/
theorem read_of_inRange {g : Grid} {row column : Nat} (h : g.InRange row column) :
    g.read row column = .ok (g.get row column h) := dif_pos h

/-- Coordinates out of range are answered with the fault that names them and the shape. -/
theorem read_of_not_inRange {g : Grid} {row column : Nat} (h : ¬ g.InRange row column) :
    g.read row column = .error (g.outOfRange row column) := dif_neg h

/-- Coordinates in range are written without a fault. -/
theorem write_of_inRange {g : Grid} {row column : Nat} {v : Int32} (h : g.InRange row column) :
    g.write row column v = .ok (g.set row column v h) := dif_pos h

/-- A read after a write in range sees the value written there and is as before elsewhere. -/
theorem read_set {g : Grid} {row column r c : Nat} {v : Int32} (h : g.InRange row column) :
    (g.set row column v h).read r c =
      if row = r ∧ column = c then .ok v else g.read r c := by
  by_cases h' : g.InRange r c
  · rw [read_of_inRange ((inRange_set h).2 h'), read_of_inRange h', get_set h h']
    split <;> rfl
  · rw [read_of_not_inRange (fun hx => h' ((inRange_set h).1 hx)), read_of_not_inRange h']
    split
    · rename_i e
      obtain ⟨rfl, rfl⟩ := e
      exact absurd h h'
    · rfl

/-! ## §4. New grids. -/

/-- The most cells, and the most bytes, that one allocation can hold: the greatest signed 64-bit
number, one less than the 63rd power of two. -/
def capacity : Nat := 9223372036854775807

/-- The bytes of the cells of a grid can be allocated. -/
def Fits (rows columns : Nat) : Prop :=
  4 * (rows * columns) ≤ capacity

instance (rows columns : Nat) : Decidable (Fits rows columns) :=
  inferInstanceAs (Decidable (_ ≤ _))

/-- The grid of the given shape whose cells are all zero. -/
def zeros (rows columns : Nat) : Grid where
  rows := rows
  columns := columns
  cells := Array.replicate (rows * columns) 0
  size_cells := Array.size_replicate

/-- A new grid of zeros, if its shape can be counted and its cells can be allocated.  An empty
axis does not excuse the other one from being countable. -/
def allocate (rows columns : Nat) : Except Fault Grid :=
  if capacity < max 1 rows * max 1 columns then .error .shapeTooLarge
  else if Fits rows columns then .ok (zeros rows columns)
  else .error .capacityExceeded

/-- A grid with at least one cell is allocated exactly if its bytes fit. -/
theorem allocate_of_fits {rows columns : Nat} (hr : 0 < rows) (hc : 0 < columns)
    (h : Fits rows columns) : allocate rows columns = .ok (zeros rows columns) := by
  unfold allocate
  have h1 : max 1 rows = rows := by omega
  have h2 : max 1 columns = columns := by omega
  have h3 : ¬ capacity < rows * columns := by unfold Fits at h; omega
  rw [h1, h2, if_neg h3, if_pos h]

/-- Every cell of a new grid is zero. -/
theorem get_zeros {rows columns r c : Nat} (h : (zeros rows columns).InRange r c) :
    (zeros rows columns).get r c h = 0 := by
  simp [get, zeros]

/-! ## §5. All cells at once. -/

/-- The cells of one row, left to right. -/
def row (g : Grid) (r : Nat) : List Int32 :=
  (g.cells.extract (r * g.columns) ((r + 1) * g.columns)).toList

/-- The rows, top to bottom. -/
def toRows (g : Grid) : List (List Int32) :=
  (List.range g.rows).map g.row

end Grid

end CommonSubsequence
