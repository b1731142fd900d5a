/-
  CommonSubsequence.Engine.Basic — a problem whose grid and path are computed on first need.

  An engine opens its two sequences from sources, and a memo holds what it has computed so far: the
  grid, the path, and whatever its sources remember.  A source may itself be an engine
  (`Engine.source`), so engines nest to any depth; opening such a source computes the path of the
  inner engine first.  A computation that is abandoned stores nothing of its own.
-/
import CommonSubsequence.Action
import CommonSubsequence.Grid.Cells

namespace CommonSubsequence

/-! ## §1. Sources. -/

/-- A sequence that is opened by an action; opening it again changes nothing more. -/
def Source (σ α : Type) : Type :=
  Action σ (Indexed α)

/-- A sequence that is simply there. -/
def Source.plain {α : Type} (s : Indexed α) : Source Unit α :=
  (pure s : Action Unit (Indexed α))

/-! ## §2. Engines and memos. -/

/-- What an engine has computed so far. -/
structure Memo (ρ γ : Type) where
  /-- What the source of the rows remembers. -/
  rows : ρ
  /-- What the source of the columns remembers. -/
  columns : γ
  /-- The grid, once it is computed. -/
  grid : Option Grid
  /-- The path, once it is computed. -/
  path : Option Path

/-- The memo of an engine that has not computed anything. -/
def Memo.fresh {ρ γ : Type} (rows : ρ) (columns : γ) : Memo ρ γ :=
  ⟨rows, columns, none, none⟩

/-- Two sources and a verdict on their elements. -/
structure Engine (ρ γ α β : Type) where
  rows : Source ρ α
  columns : Source γ β
  agree : α → β → Bool

namespace Engine

variable {ρ γ α β : Type}

/-- The engine of a problem, both of whose sequences are simply there. -/
def ofProblem (p : Problem α β) : Engine Unit Unit α β where
  rows := .plain p.rows
  columns := .plain p.columns
  agree := p.agree

/-! ## §3. Opening the sequences. -/

def openRows (e : Engine ρ γ α β) : Action (Memo ρ γ) (Indexed α) :=
  Action.along .rows Memo.rows (fun s m => { m with rows := s }) e.rows

def openColumns (e : Engine ρ γ α β) : Action (Memo ρ γ) (Indexed β) :=
  Action.along .columns Memo.columns (fun s m => { m with columns := s }) e.columns

/-- Open both sequences, the rows first. -/
def openProblem (e : Engine ρ γ α β) : Action (Memo ρ γ) (Problem α β) := do
  let rows ← e.openRows
  let columns ← e.openColumns
  pure ⟨rows, columns, e.agree⟩

/-! ## §4. The grid. -/

/-- Fill the grid and report it. -/
def computeGrid (e : Engine ρ γ α β) : Action (Memo ρ γ) Grid := do
  let p ← e.openProblem
  let g ← .ofExcept p.fill
  let corner ← .ofExcept (p.corner g)
  .send [.gridComputed g.rows g.columns corner]
  pure g

/-- The grid, computed if it is not stored yet. -/
def grid (e : Engine ρ γ α β) : Action (Memo ρ γ) Grid := do
  match (← .get).grid with
  | some g => pure g
  | none =>
    let g ← e.computeGrid
    .modify fun m => { m with grid := some g }
    pure g

/-- The length of a longest common subsequence, read off the grid. -/
def length (e : Engine ρ γ α β) : Action (Memo ρ γ) Nat := do
  let g ← e.grid
  let p ← e.openProblem
  let v ← .ofExcept (p.corner g)
  pure (Problem.count v)

/-- The number of cells of the grid, which need not be computed for it. -/
def cellCount (e : Engine ρ γ α β) : Action (Memo ρ γ) Nat := do
  let p ← e.openProblem
  pure ((p.rows.size + 1) * (p.columns.size + 1))

/-! ## §5. The path. -/

/-- Walk the grid and report every move, whether or not a path is stored. -/
def backtrack (e : Engine ρ γ α β) : Action (Memo ρ γ) Path := do
  let g ← e.grid
  let p ← e.openProblem
  let trail := p.backtrack g
  .send trail.records
  .ofExcept trail.path

/-- The path, computed if it is not stored yet. -/
def path (e : Engine ρ γ α β) : Action (Memo ρ γ) Path := do
  match (← .get).path with
  | some p => pure p
  | none =>
    let p ← e.backtrack
    .modify fun m => { m with path := some p }
    pure p

/-- The elements of the rows that the path selects. -/
def common (e : Engine ρ γ α β) : Action (Memo ρ γ) (Indexed α) := do
  let path ← e.path
  let rows ← e.openRows
  pure (path.through rows)

/-- The engine as a source for another one. -/
def source (e : Engine ρ γ α β) : Source (Memo ρ γ) α :=
  e.common

/-- An engine over the common subsequences of two others. -/
def nested {ρ' γ' δ ε : Type} (first : Engine ρ γ α β) (second : Engine ρ' γ' δ ε)
    (agree : α → δ → Bool) : Engine (Memo ρ γ) (Memo ρ' γ') α δ where
  rows := first.source
  columns := second.source
  agree := agree

/-! ## §6. The grid seen from outside. -/

/-- The engine as a grid: its shape is known from the sizes of the sequences, reading a cell
computes the grid, and nothing can be written. -/
def cells (e : Engine ρ γ α β) : Cells (Action (Memo ρ γ)) where
  rowCount := do
    let rows ← e.openRows
    pure (rows.size + 1)
  columnCount := do
    let columns ← e.openColumns
    pure (columns.size + 1)
  read row column := do
    let g ← e.grid
    pure (g.read row column)
  write := Cells.refuse

/-! ## §7. First facts. -/

/-- Opening sequences that are simply there changes and reports nothing. -/
@[simp] theorem run_openRows_ofProblem (p : Problem α β) (m : Memo Unit Unit) :
    (ofProblem p).openRows.run m = ⟨.ok p.rows, m, []⟩ := rfl

@[simp] theorem run_openColumns_ofProblem (p : Problem α β) (m : Memo Unit Unit) :
    (ofProblem p).openColumns.run m = ⟨.ok p.columns, m, []⟩ := rfl

@[simp] theorem run_openProblem_ofProblem (p : Problem α β) (m : Memo Unit Unit) :
    (ofProblem p).openProblem.run m = ⟨.ok p, m, []⟩ := rfl

/-- A stored grid is handed out as it is. -/
theorem run_grid_of_stored (e : Engine ρ γ α β) {m : Memo ρ γ} {g : Grid} (h : m.grid = some g) :
    e.grid.run m = ⟨.ok g, m, []⟩ := by
  unfold grid
  rw [Action.run_bind_of_ok (Action.run_get m), h]
  rfl

/-- A stored path is handed out as it is. -/
theorem run_path_of_stored (e : Engine ρ γ α β) {m : Memo ρ γ} {p : Path} (h : m.path = some p) :
    e.path.run m = ⟨.ok p, m, []⟩ := by
  unfold path
  rw [Action.run_bind_of_ok (Action.run_get m), h]
  rfl

/-- A missing grid is computed, reported once and stored. -/
theorem run_grid_of_missing (p : Problem α β) {m : Memo Unit Unit} {g : Grid} {v : Int32}
    (h : m.grid = none) (hfill : p.fill = .ok g) (hcorner : p.corner g = .ok v) :
    (ofProblem p).grid.run m =
      ⟨.ok g, { m with grid := some g }, [.own (.gridComputed g.rows g.columns v)]⟩ := by
  have compute : (ofProblem p).computeGrid.run m =
      ⟨.ok g, m, [.own (.gridComputed g.rows g.columns v)]⟩ := by
    unfold computeGrid
    rw [Action.run_bind_of_ok (run_openProblem_ofProblem p m), hfill]
    rw [Action.run_bind_of_ok (Action.run_ofExcept (.ok g) m), hcorner]
    rfl
  unfold grid
  rw [Action.run_bind_of_ok (Action.run_get m), h]
  show ((ofProblem p).computeGrid >>= _).run m = _
  rw [Action.run_bind_of_ok compute]
  rfl

end Engine

end CommonSubsequence
