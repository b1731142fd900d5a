/-
  CommonSubsequence.Alignment.Table — the grid of common lengths of all pairs of beginnings.

  Cell `(r, c)` of the grid belongs to the first `r` rows and the first `c` columns.  Row zero and
  column zero are zero.  Every other cell is one more than its diagonal neighbour where the two
  elements match, and the greater of its upper and left neighbours where they do not:

      cell (i + 1) (j + 1) = cell i j + 1                             if rows[i] matches columns[j]
                           = max (cell i (j + 1)) (cell (i + 1) j)     otherwise

  Rows and columns are read in order, each up to its first hole; cells beyond stay zero.
-/
import CommonSubsequence.Alignment.Problem
import CommonSubsequence.Grid.Basic

namespace CommonSubsequence.Problem

variable {α β : Type}

/-! ## §1. One cell. -/

/-- The value for the cell after row element `x` at `i` and column element `y` at `j`. -/
def cellValue (p : Problem α β) (x : α) (y : β) (i j : Nat) (g : Grid) : Except Fault Int32 :=
  if p.agree x y then do
    let diagonal ← g.read i j
    pure (diagonal + 1)
  else do
    let above ← g.read i (j + 1)
    let beside ← g.read (i + 1) j
    pure (max above beside)

/-- Fill the cell after row element `x` at `i` and column element `y` at `j`. -/
def fillCell (p : Problem α β) (x : α) (y : β) (i j : Nat) (g : Grid) : Except Fault Grid :=
  match p.cellValue x y i j g with
  | .ok value => g.write (i + 1) (j + 1) value
  | .error f => .error f

/-! ## §2. All cells. -/

/-- Fill the cells after row element `x` at `i`, for the column elements from `j` on. -/
def fillRow (p : Problem α β) (x : α) (i : Nat) : List β → (j : Nat) → Grid → Except Fault Grid
  | [], _, g => .ok g
  | y :: ys, j, g =>
    match p.fillCell x y i j g with
    | .ok g' => fillRow p x i ys (j + 1) g'
    | .error f => .error f

/-- Fill the rows of cells for the row elements from `i` on. -/
def fillRows (p : Problem α β) (ys : List β) : List α → (i : Nat) → Grid → Except Fault Grid
  | [], _, g => .ok g
  | x :: xs, i, g =>
    match p.fillRow x i ys 0 g with
    | .ok g' => fillRows p ys xs (i + 1) g'
    | .error f => .error f

/-- The cells of the grid can be allocated: one more than there are rows, by one more than there
are columns. -/
def Fits (p : Problem α β) : Prop :=
  Grid.Fits (p.rows.size + 1) (p.columns.size + 1)

instance (p : Problem α β) : Decidable p.Fits :=
  inferInstanceAs (Decidable (Grid.Fits _ _))

/-- The grid of the problem.  Sizes are numbers without the limit of a 64-bit word; as long as the
grid fits, a size and one more is far below that limit. -/
def fill (p : Problem α β) : Except Fault Grid :=
  match Grid.allocate (p.rows.size + 1) (p.columns.size + 1) with
  | .ok g => p.fillRows p.columns.items p.rows.items 0 g
  | .error f => .error f

/-! ## §3. The corner. -/

/-- The bottom right cell of a grid of the problem. -/
def corner (p : Problem α β) (g : Grid) : Except Fault Int32 :=
  g.read p.rows.size p.columns.size

/-- A cell as an unsigned 64-bit number. -/
def count (v : Int32) : Nat :=
  v.toInt64.toUInt64.toNat

/-- The length of a longest common subsequence, as the bottom right cell counts it. -/
def length (p : Problem α β) : Except Fault Nat := do
  let g ← p.fill
  let v ← p.corner g
  pure (count v)

end CommonSubsequence.Problem
