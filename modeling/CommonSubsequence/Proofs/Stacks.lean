/-
  CommonSubsequence.Proofs.Stacks — reads and writes through a stack of layers.

  Coordinates change places once for every transposed layer, and so does the shape: what lies
  inside the outermost shape is handed down to a cell of the grid at the bottom.  Coordinates
  outside of it are turned away by the outermost transposed layer, which names the outermost
  shape, and if there is none they reach the bottom as they are.  A shared layer turns every write
  away, wherever it stands, but a transposed layer further out is asked first.

  The layers ask for the shape as they go along.  Where that is no work (`Cells.Shaped`) an access
  through a stack is one access to the bottom or none; a grid held in the state is treated as one
  of those, as no access changes its shape (`Cells.ofShape`).

  Main results:
    * `Cells.Shaped.read_under`, `Cells.Shaped.write_under` — accesses inside the outermost shape.
    * `Cells.Shaped.write_under_share` — what a stack answers to a write if the grid is shared.
    * `Grid.run_read_under`, `Grid.run_write_under` — every access to a grid held in the state.
-/
import CommonSubsequence.Engine.Demand
import CommonSubsequence.Proofs.Correspondence
import Mathlib.Data.List.Induction

namespace CommonSubsequence

namespace Cells

variable {layers : List Layer} {shape cell : Nat × Nat} {row column : Nat}

/-! ## §1. Shapes and coordinates. -/

/-- The cell of the bottom grid that coordinates at the outermost layer stand for.  Coordinates
change places where a shape does. -/
def cellUnder (layers : List Layer) (cell : Nat × Nat) : Nat × Nat :=
  layers.foldr Layer.shape cell

theorem cellUnder_append_singleton (ls : List Layer) (l : Layer) (cell : Nat × Nat) :
    cellUnder (ls ++ [l]) cell = cellUnder ls (l.shape cell) := by
  simp [cellUnder]

/-- The outermost layer turns the shape last. -/
theorem shapeUnder_append_singleton (ls : List Layer) (l : Layer) (shape : Nat × Nat) :
    shapeUnder (ls ++ [l]) shape = l.shape (shapeUnder ls shape) := by
  simp [shapeUnder]

/-- A layer that exchanges the coordinates exchanges the bounds on them as well. -/
theorem Layer.inside_shape (l : Layer) (shape cell : Nat × Nat) :
    inside (l.shape shape) (l.shape cell).1 (l.shape cell).2 = inside shape cell.1 cell.2 := by
  cases l with
  | transposed => exact Bool.and_comm _ _
  | shared => rfl
  | exclusive => rfl

theorem Layer.shape_shape (l : Layer) (s : Nat × Nat) : l.shape (l.shape s) = s := by
  cases l <;> rfl

/-- Coordinates inside the outermost shape stand for a cell of the bottom grid, and no others do. -/
theorem inside_cellUnder (layers : List Layer) (shape cell : Nat × Nat) :
    inside shape (cellUnder layers cell).1 (cellUnder layers cell).2
      = inside (shapeUnder layers shape) cell.1 cell.2 := by
  -- coordinates are handed down from the outermost layer, the last one of the stack
  induction layers using List.reverseRecOn generalizing cell with
  | nil => rfl
  | append_singleton ls l ih =>
    rw [cellUnder_append_singleton, shapeUnder_append_singleton, ih,
      ← l.inside_shape (shapeUnder ls shape), l.shape_shape]

/-- Without a transposed layer the outermost shape is the one of the bottom grid. -/
theorem shapeUnder_of_not_transposed (h : .transposed ∉ layers) (shape : Nat × Nat) :
    shapeUnder layers shape = shape := by
  induction layers with
  | nil => rfl
  | cons l ls ih =>
    have hls : .transposed ∉ ls := fun hmem => h (List.mem_cons_of_mem l hmem)
    cases l with
    | transposed => exact absurd List.mem_cons_self h
    | shared => exact ih hls
    | exclusive => exact ih hls

/-! ## §2. What a stack answers to a write. -/

/-- The outermost layer that does not just hand everything on. -/
def facing (layers : List Layer) : Option Layer :=
  layers.reverse.find? (· ≠ .exclusive)

/-- The fault of coordinates outside of a shape. -/
def outOfRange (shape : Nat × Nat) (row column : Nat) : Fault :=
  .cellOutOfRange row column shape.1 shape.2

/-- The answer to a write through a stack around a writable grid of the given shape.  A transposed
layer that is met first looks at the coordinates before a shared one further in refuses. -/
def writeResult (layers : List Layer) (shape : Nat × Nat) (row column : Nat) : Except Fault Unit :=
  -- a shared layer that is met first refuses without a look at the coordinates
  if facing layers = some .shared then .error .readOnly
  else if ¬ inside (shapeUnder layers shape) row column then
    .error (outOfRange (shapeUnder layers shape) row column)
  else if .shared ∈ layers then .error .readOnly
  else .ok ()

/-- A writer looks through layers that hand everything on. -/
theorem facing_append_singleton (ls : List Layer) (l : Layer) :
    facing (ls ++ [l]) = if l = .exclusive then facing ls else some l := by
  unfold facing
  rw [List.reverse_append, List.reverse_singleton, List.singleton_append, List.find?_cons]
  cases l <;> rfl

theorem mem_of_facing {l : Layer} (h : facing layers = some l) : l ∈ layers :=
  List.mem_reverse.1 (List.mem_of_find?_eq_some h)

/-- Only a stack of layers that hand everything on faces no other layer. -/
theorem eq_exclusive_of_facing (h : facing layers = none) {l : Layer} (hl : l ∈ layers) :
    l = .exclusive := by
  have hnone := List.find?_eq_none.1 h l (List.mem_reverse.2 hl)
  simpa using hnone

/-- Inside the outermost shape only a shared layer stands in the way, wherever it is. -/
theorem writeResult_of_inside (h : inside (shapeUnder layers shape) row column = true) :
    writeResult layers shape row column
      = if .shared ∈ layers then .error .readOnly else .ok () := by
  unfold writeResult
  rw [h]
  -- whether the shared layer is met first or later, the answer is the same
  by_cases hfacing : facing layers = some .shared
  · rw [if_pos hfacing, if_pos (mem_of_facing hfacing)]
  · rw [if_neg hfacing]
    rfl

/-- Outside, a write fails for the layer that the writer faces, or for its coordinates. -/
theorem writeResult_of_outside (h : inside (shapeUnder layers shape) row column = false) :
    writeResult layers shape row column
      = if facing layers = some .shared then .error .readOnly
        else .error (outOfRange (shapeUnder layers shape) row column) := by
  unfold writeResult
  rw [h]
  rfl

/-- A write that succeeds names a cell, and no layer is shared. -/
theorem writeResult_eq_ok_iff : writeResult layers shape row column = .ok ()
    ↔ inside (shapeUnder layers shape) row column = true ∧ .shared ∉ layers := by
  cases hin : inside (shapeUnder layers shape) row column with
  | false =>
    rw [writeResult_of_outside hin]
    split <;> simp
  | true =>
    rw [writeResult_of_inside hin]
    split <;> simp_all

/-! ## §3. Grids whose shape is known. -/

universe v
variable {m : Type → Type v} [Monad m] {v : Cells m}

/-- Layers that are not transposed hand every read on as it is. -/
theorem read_under_of_not_transposed (h : .transposed ∉ layers) :
    (v.under layers).read row column = v.read row column := by
  induction layers generalizing v with
  | nil => rfl
  | cons l ls ih =>
    have hls : .transposed ∉ ls := fun hmem => h (List.mem_cons_of_mem l hmem)
    rw [under_cons, ih hls]
    cases l with
    | transposed => exact absurd List.mem_cons_self h
    | shared => rfl
    | exclusive => rfl

/-- A stack that faces nothing makes no difference. -/
theorem under_of_facing_none (h : facing layers = none) (v : Cells m) (shape : Nat × Nat) :
    v.under layers = v ∧ shapeUnder layers shape = shape := by
  have hall := fun l => eq_exclusive_of_facing (l := l) h
  clear h
  induction layers with
  | nil => exact ⟨rfl, rfl⟩
  | cons l ls ih =>
    rw [under_cons, shapeUnder_cons, hall l List.mem_cons_self]
    exact ih fun l' hl' => hall l' (List.mem_cons_of_mem l hl')

/-- Asking for the shape is no work. -/
structure Shaped (v : Cells m) (shape : Nat × Nat) : Prop where
  rowCount : v.rowCount = pure shape.1
  columnCount : v.columnCount = pure shape.2

namespace Shaped

/-- A layer turns the shape of the grid inside of it. -/
theorem around (h : v.Shaped shape) (l : Layer) : (l.around v).Shaped (l.shape shape) := by
  cases l with
  | transposed => exact ⟨h.columnCount, h.rowCount⟩
  | shared => exact ⟨h.rowCount, h.columnCount⟩
  | exclusive => exact h

theorem under (h : v.Shaped shape) (layers : List Layer) :
    (v.under layers).Shaped (shapeUnder layers shape) := by
  induction layers generalizing v shape with
  | nil => exact h
  | cons l ls ih => exact ih (h.around l)

variable [LawfulMonad m]

/-- A transposed layer hands an access on exactly at coordinates inside its shape. -/
theorem checked (h : v.Shaped shape) {X : Type} (a : m (Except Fault X)) (row column : Nat) :
    (do
        let rows ← v.columnCount
        let columns ← v.rowCount
        match bounds rows columns row column with
        | .ok () => a
        | .error f => pure (.error f))
      = if inside (Layer.transposed.shape shape) row column then a
        else pure (.error (outOfRange (Layer.transposed.shape shape) row column)) := by
  rw [h.rowCount, h.columnCount, pure_bind, pure_bind]
  have hiff : inside (Layer.transposed.shape shape) row column = true
      ↔ row < shape.2 ∧ column < shape.1 := inside_iff
  by_cases hin : row < shape.2 ∧ column < shape.1
  · rw [bounds, if_pos hin, if_pos (hiff.2 hin)]
  · rw [bounds, if_neg hin, if_neg fun hc => hin (hiff.1 hc)]
    rfl

/-- Through a transposed layer the exchanged cell is read, or the exchanged shape is named. -/
theorem read_transpose (h : v.Shaped shape) (row column : Nat) :
    v.transpose.read row column
      = if inside (Layer.transposed.shape shape) row column then v.read column row
        else pure (.error (outOfRange (Layer.transposed.shape shape) row column)) :=
  h.checked (v.read column row) row column

theorem write_transpose (h : v.Shaped shape) (row column : Nat) (x : Int32) :
    v.transpose.write row column x
      = if inside (Layer.transposed.shape shape) row column then v.write column row x
        else pure (.error (outOfRange (Layer.transposed.shape shape) row column)) :=
  h.checked (v.write column row x) row column

/-- Inside the outermost shape every layer hands a read on. -/
theorem read_under (h : v.Shaped shape)
    (hin : inside (shapeUnder layers shape) row column = true) :
    (v.under layers).read row column
      = v.read (cellUnder layers (row, column)).1 (cellUnder layers (row, column)).2 := by
  induction layers using List.reverseRecOn generalizing row column with
  | nil => rfl
  | append_singleton ls l ih =>
    rw [shapeUnder_append_singleton] at hin
    rw [under_append_singleton, cellUnder_append_singleton]
    cases l with
    | transposed =>
      -- inside its shape the exchanged coordinates lie inside the shape further in
      show (v.under ls).transpose.read row column = _
      rw [(h.under ls).read_transpose, if_pos hin]
      exact ih ((Bool.and_comm _ _).trans hin)
    | shared => exact ih hin
    | exclusive => exact ih hin

/-- Inside the outermost shape every layer hands a write on, unless one of them is shared. -/
theorem write_under (h : v.Shaped shape)
    (hin : inside (shapeUnder layers shape) row column = true) (x : Int32) :
    (v.under layers).write row column x
      = if .shared ∈ layers then pure (.error .readOnly)
        else v.write (cellUnder layers (row, column)).1 (cellUnder layers (row, column)).2 x := by
  induction layers using List.reverseRecOn generalizing row column with
  | nil => rfl
  | append_singleton ls l ih =>
    rw [shapeUnder_append_singleton] at hin
    rw [under_append_singleton, cellUnder_append_singleton]
    cases l with
    | transposed =>
      show (v.under ls).transpose.write row column x = _
      rw [(h.under ls).write_transpose, if_pos hin, ih ((Bool.and_comm _ _).trans hin)]
      simp [Layer.shape]
    | shared => simp [Layer.around, share, refuse]
    | exclusive =>
      show (v.under ls).write row column x = _
      rw [ih hin]
      simp [Layer.shape]

/-- Outside the outermost shape the outermost transposed layer turns a read away. -/
theorem read_under_outside (h : v.Shaped shape)
    (hout : inside (shapeUnder layers shape) row column = false) (htrans : .transposed ∈ layers) :
    (v.under layers).read row column
      = pure (.error (outOfRange (shapeUnder layers shape) row column)) := by
  induction layers using List.reverseRecOn with
  | nil => cases htrans
  | append_singleton ls l ih =>
    rw [shapeUnder_append_singleton] at hout ⊢
    rw [under_append_singleton]
    cases l with
    | transposed =>
      show (v.under ls).transpose.read row column = _
      rw [(h.under ls).read_transpose, if_neg (ne_true_of_eq_false hout)]
    | shared => exact ih hout ((List.mem_append.1 htrans).resolve_right (by simp))
    | exclusive => exact ih hout ((List.mem_append.1 htrans).resolve_right (by simp))

/-- Outside the outermost shape the outermost layer that does anything turns a write away. -/
theorem write_under_outside (h : v.Shaped shape)
    (hout : inside (shapeUnder layers shape) row column = false) (x : Int32)
    (hfacing : facing layers ≠ none) :
    (v.under layers).write row column x = pure (writeResult layers shape row column) := by
  rw [writeResult_of_outside hout]
  induction layers using List.reverseRecOn with
  | nil => exact absurd rfl hfacing
  | append_singleton ls l ih =>
    rw [facing_append_singleton] at hfacing ⊢
    rw [shapeUnder_append_singleton] at hout ⊢
    rw [under_append_singleton]
    cases l with
    | transposed =>
      show (v.under ls).transpose.write row column x = _
      rw [(h.under ls).write_transpose, if_neg (ne_true_of_eq_false hout)]
      rfl
    | shared => rfl
    | exclusive => exact ih hout hfacing

/-- Around a shared grid no stack lets a write through, and all of it is settled by the layers. -/
theorem write_under_share (h : v.Shaped shape) (layers : List Layer) (row column : Nat)
    (x : Int32) :
    (v.under (.shared :: layers)).write row column x
      = pure (writeResult (.shared :: layers) shape row column) := by
  cases hin : inside (shapeUnder (.shared :: layers) shape) row column with
  | true =>
    rw [h.write_under hin, writeResult_of_inside hin, if_pos List.mem_cons_self,
      if_pos List.mem_cons_self]
  | false =>
    refine h.write_under_outside hin x fun hfacing => ?_
    cases eq_exclusive_of_facing hfacing List.mem_cons_self

end Shaped

/-! ## §4. Grids held in the state. -/

/-- Actions on a stored grid that do the same as long as the grid has the given shape, which they
keep. -/
def ofShape (shape : Nat × Nat) : Correspondence (StateM Grid) (StateM Grid) where
  rel a b := ∀ g : Grid, (g.rows, g.columns) = shape →
    a.run g = b.run g ∧ ((a.run g).2.rows, (a.run g).2.columns) = shape
  rel_pure x g hg := ⟨rfl, hg⟩
  rel_bind {α β a b f h} hab hfh := by
    intro g hg
    obtain ⟨hrun, hshape⟩ := hab g hg
    -- the second action starts from a grid of the shape that the first one kept
    obtain ⟨hrun', hshape'⟩ := hfh (a.run g).1 (a.run g).2 hshape
    refine ⟨?_, hshape'⟩
    show (f (a.run g).1).run (a.run g).2 = (h (b.run g).1).run (b.run g).2
    rw [hrun', hrun]

end Cells

namespace Grid

open Cells

/-- Rows and columns of a grid. -/
def shape (g : Grid) : Nat × Nat :=
  (g.rows, g.columns)

/-- The grid held in the state, with a shape that is known beforehand. -/
def storedAs (shape : Nat × Nat) : Cells (StateM Grid) :=
  { stored with rowCount := pure shape.1, columnCount := pure shape.2 }

theorem shaped_storedAs (shape : Nat × Nat) : (storedAs shape).Shaped shape :=
  ⟨rfl, rfl⟩

/-- As long as it has that shape, the grid in the state is one whose shape is known beforehand. -/
theorem grids_stored (shape : Nat × Nat) : (ofShape shape).Grids stored (storedAs shape) where
  rowCount g hg := by
    subst hg
    exact ⟨rfl, rfl⟩
  columnCount g hg := by
    subst hg
    exact ⟨rfl, rfl⟩
  read _ _ _ hg := ⟨rfl, hg⟩
  write r c x g hg := by
    refine ⟨rfl, ?_⟩
    show ((stored.write r c x g).2.rows, (stored.write r c x g).2.columns) = shape
    unfold stored
    dsimp only
    split
    · exact hg
    · exact hg

variable {layers : List Layer} {row column : Nat}

theorem inRange_iff_inside {g : Grid} :
    g.InRange row column ↔ inside g.shape row column = true := by
  rw [inside_iff]
  rfl

theorem not_inRange_of_outside {g : Grid} (h : inside g.shape row column = false) :
    ¬ g.InRange row column := by
  intro hin
  rw [inRange_iff_inside.1 hin] at h
  cases h

/-- **Reads through a stack** find the cell that the coordinates stand for. -/
theorem run_read_under (g : Grid) (layers : List Layer) (row column : Nat) :
    ((stored.under layers).read row column).run g
      = (if inside (shapeUnder layers g.shape) row column then
          g.read (cellUnder layers (row, column)).1 (cellUnder layers (row, column)).2
        else .error (Cells.outOfRange (shapeUnder layers g.shape) row column), g) := by
  rw [(((grids_stored g.shape).under layers).read row column g rfl).1]
  have hshaped := shaped_storedAs g.shape
  cases hin : inside (shapeUnder layers g.shape) row column with
  | true =>
    rw [hshaped.read_under hin]
    rfl
  | false =>
    by_cases htrans : .transposed ∈ layers
    · rw [hshaped.read_under_outside hin htrans]
      rfl
    · -- the bottom grid itself turns the read away, and names the same shape
      rw [shapeUnder_of_not_transposed htrans] at hin ⊢
      rw [read_under_of_not_transposed htrans]
      show (g.read row column, g) = _
      rw [read_of_not_inRange (not_inRange_of_outside hin)]
      rfl

/-- **Writes through a stack** that succeed replace the cell that the coordinates stand for. -/
theorem run_write_under {g : Grid} {x : Int32}
    (h : writeResult layers g.shape row column = .ok ()) :
    ∃ hcell : g.InRange (cellUnder layers (row, column)).1 (cellUnder layers (row, column)).2,
      ((stored.under layers).write row column x).run g = (.ok (), g.set _ _ x hcell) := by
  obtain ⟨hin, hshared⟩ := writeResult_eq_ok_iff.1 h
  have hcell := inRange_iff_inside.2 ((inside_cellUnder layers g.shape (row, column)).trans hin)
  refine ⟨hcell, ?_⟩
  rw [(((grids_stored g.shape).under layers).write row column x g rfl).1,
    (shaped_storedAs g.shape).write_under hin, if_neg hshared]
  exact dif_pos hcell

/-- Writes through a stack that fail leave the grid as it is. -/
theorem run_write_under_of_error {g : Grid} {x : Int32} {f : Fault}
    (h : writeResult layers g.shape row column = .error f) :
    ((stored.under layers).write row column x).run g = (.error f, g) := by
  rw [(((grids_stored g.shape).under layers).write row column x g rfl).1]
  have hshaped := shaped_storedAs g.shape
  cases hin : inside (shapeUnder layers g.shape) row column with
  | true =>
    -- inside, the only reason to fail is a shared layer
    rw [writeResult_of_inside hin] at h
    rw [hshaped.write_under hin]
    by_cases hshared : .shared ∈ layers
    · rw [if_pos hshared] at h ⊢
      cases h
      rfl
    · rw [if_neg hshared] at h
      cases h
  | false =>
    by_cases hfacing : facing layers = none
    · -- nothing but the bottom grid can turn the write away
      obtain ⟨hunder, hshape⟩ := under_of_facing_none hfacing (storedAs g.shape) g.shape
      rw [writeResult_of_outside hin, hfacing, hshape] at h
      rw [hshape] at hin
      rw [hunder]
      cases h
      exact dif_neg (not_inRange_of_outside hin)
    · rw [hshaped.write_under_outside hin x hfacing, h]
      rfl

end Grid

end CommonSubsequence
