/-
  CommonSubsequence.Proofs.Viewing — what can be read through a stack of layers.

  A transposed layer exchanges rows and columns and the other layers do not, so what a stack makes
  of a shape or of coordinates depends on the number of its transposed layers only, and in the end
  on no more than whether that is odd.  A read inside the outermost shape finds the cell at the
  exchanged coordinates.  Any other read is turned away, by the outermost transposed layer or by
  the grid at the bottom if there is none; either way the fault names the coordinates as they were
  asked for and the outermost shape.

  This holds of a grid held in the state, and of an engine seen as a grid at any point of a session,
  whatever it was asked before and whatever its sources do.

  Main results:
    * `Cells.shapeUnder_eq_iterate`, `Cells.cellUnder_eq_iterate` — a stack as so many exchanges.
    * `Cells.Shaped.read_under_eq` — every read through a stack, inside its shape or not.
    * `Nest.Started.answer_read_under` — reads of an engine.
    * `reads_through_stacks` — grids and engines.
-/
import CommonSubsequence.Proofs.Stacks
import CommonSubsequence.Proofs.Towers
import Mathlib.Algebra.Ring.Parity

namespace CommonSubsequence

namespace Cells

variable {layers : List Layer} {shape : Nat × Nat} {row column : Nat}

/-! ## §1. A stack as a number of exchanges. -/

/-- Only a transposed layer exchanges rows and columns. -/
theorem Layer.shape_eq_iterate (l : Layer) (s : Nat × Nat) :
    l.shape s = Prod.swap^[[l].count .transposed] s := by
  cases l <;> rfl

/-- A stack exchanges the sides of a shape once for each transposed layer. -/
theorem shapeUnder_eq_iterate (layers : List Layer) (shape : Nat × Nat) :
    shapeUnder layers shape = Prod.swap^[layers.count .transposed] shape := by
  induction layers generalizing shape with
  | nil => rfl
  | cons l ls ih =>
    -- the innermost layer comes first, and all others see what it leaves
    rw [shapeUnder_cons, ih, l.shape_eq_iterate, ← Function.iterate_add_apply, ← List.count_append,
      (List.perm_append_singleton l ls).count_eq]

theorem cellUnder_eq_iterate (layers : List Layer) (cell : Nat × Nat) :
    cellUnder layers cell = Prod.swap^[layers.count .transposed] cell := by
  induction layers with
  | nil => rfl
  | cons l ls ih =>
    show l.shape (cellUnder ls cell) = _
    rw [ih, l.shape_eq_iterate, ← Function.iterate_add_apply, ← List.count_append]
    rfl

/-- Two exchanges undo each other. -/
theorem iterate_swap (n : Nat) (s : Nat × Nat) :
    Prod.swap^[n] s = if Odd n then s.swap else s := by
  have hinvolutive : Function.Involutive (Prod.swap (α := Nat) (β := Nat)) := Prod.swap_swap
  by_cases h : Odd n
  · rw [if_pos h, hinvolutive.iterate_odd h]
  · rw [if_neg h, hinvolutive.iterate_even (Nat.not_odd_iff_even.1 h)]
    rfl

/-- Whether the sides end up exchanged is a question of parity. -/
theorem shapeUnder_eq_ite (layers : List Layer) (rows columns : Nat) :
    shapeUnder layers (rows, columns)
      = if Odd (layers.count .transposed) then (columns, rows) else (rows, columns) := by
  rw [shapeUnder_eq_iterate, iterate_swap]
  rfl

/-! ## §2. The result of a read. -/

/-- The result of a read through a stack around a grid of the given shape and cells. -/
def readResult (layers : List Layer) (shape : Nat × Nat) (base : Nat → Nat → Except Fault Int32)
    (row column : Nat) : Except Fault Int32 :=
  if inside (shapeUnder layers shape) row column then
    base (cellUnder layers (row, column)).1 (cellUnder layers (row, column)).2
  else .error (outOfRange (shapeUnder layers shape) row column)

/-- A read through a stack finds a cell exactly at coordinates inside the outermost shape. -/
theorem exists_readResult_iff {base : Nat → Nat → Except Fault Int32}
    (hbase : ∀ r c, (∃ x, base r c = .ok x) ↔ inside shape r c = true) :
    (∃ x, readResult layers shape base row column = .ok x)
      ↔ inside (shapeUnder layers shape) row column = true := by
  unfold readResult
  cases hin : inside (shapeUnder layers shape) row column with
  | true =>
    rw [if_pos rfl, hbase, inside_cellUnder]
    exact iff_of_true hin rfl
  | false =>
    rw [if_neg Bool.false_ne_true]
    simp

/-- The same, in terms of exchanges of rows and columns. -/
theorem readResult_spec {rows columns : Nat} {base : Nat → Nat → Except Fault Int32}
    (hbase : ∀ r c, (∃ x, base r c = .ok x) ↔ inside (rows, columns) r c = true)
    (layers : List Layer) (row column : Nat) :
    let n := layers.count .transposed
    let outer := if Odd n then (columns, rows) else (rows, columns)
    let cell := Prod.swap^[n] (row, column)
    let result := readResult layers (rows, columns) base row column
    ((∃ x, result = .ok x) ↔ row < outer.1 ∧ column < outer.2)
      ∧ result = if row < outer.1 ∧ column < outer.2 then base cell.1 cell.2
        else .error (.cellOutOfRange row column outer.1 outer.2) := by
  intro n outer cell result
  have houter : shapeUnder layers (rows, columns) = outer := shapeUnder_eq_ite layers rows columns
  constructor
  · rw [← inside_iff, ← houter]
    exact exists_readResult_iff hbase
  · show readResult _ _ _ _ _ = _
    unfold readResult
    rw [houter, cellUnder_eq_iterate]
    by_cases hin : row < outer.1 ∧ column < outer.2
    · rw [if_pos hin, if_pos (inside_iff.2 hin)]
    · rw [if_neg hin, if_neg fun hc => hin (inside_iff.1 hc)]
      rfl

/-- Only the parity of the number of transposed layers matters. -/
theorem readResult_congr {layers' : List Layer}
    (h : Odd (layers.count .transposed) ↔ Odd (layers'.count .transposed))
    (base : Nat → Nat → Except Fault Int32) :
    readResult layers shape base row column = readResult layers' shape base row column := by
  unfold readResult
  simp only [shapeUnder_eq_iterate, cellUnder_eq_iterate, iterate_swap, h]

universe v
variable {m : Type → Type v} [Monad m] [LawfulMonad m] {v : Cells m}

/-- **Reads through a stack** around a grid whose shape and cells are no work to find out. -/
theorem Shaped.read_under_eq {base : Nat → Nat → Except Fault Int32} (h : v.Shaped shape)
    (hread : ∀ r c, v.read r c = pure (base r c))
    (hout : ∀ r c, inside shape r c = false → base r c = .error (outOfRange shape r c)) :
    (v.under layers).read row column = pure (readResult layers shape base row column) := by
  unfold readResult
  cases hin : inside (shapeUnder layers shape) row column with
  | true => rw [h.read_under hin, hread, if_pos rfl]
  | false =>
    rw [if_neg Bool.false_ne_true]
    by_cases htrans : .transposed ∈ layers
    · exact h.read_under_outside hin htrans
    · -- the read comes to the bottom as it is, and there the shape is the outermost one
      rw [shapeUnder_of_not_transposed htrans] at hin ⊢
      rw [read_under_of_not_transposed htrans, hread, hout row column hin]

end Cells

/-! ## §3. Grids. -/

namespace Grid

open Cells

variable {g : Grid} {row column : Nat}

theorem exists_read_iff : (∃ x, g.read row column = .ok x) ↔ inside g.shape row column = true := by
  rw [← inRange_iff_inside]
  by_cases h : g.InRange row column
  · rw [read_of_inRange h]
    simp [h]
  · rw [read_of_not_inRange h]
    simp [h]

/-- A grid value behind layers. -/
theorem read_layered (g : Grid) (layers : List Layer) (row column : Nat) :
    ((Engine.layered g layers).read row column).run
      = readResult layers g.shape g.read row column := by
  have hshaped : (g.reading : Cells Id).Shaped g.shape := ⟨rfl, rfl⟩
  refine hshaped.read_under_eq (fun _ _ => rfl) ?_
  intro r c hout
  exact read_of_not_inRange (not_inRange_of_outside hout)

/-- The shape of a grid held in the state. -/
theorem run_shape_under (g : Grid) (layers : List Layer) :
    let outer := shapeUnder layers g.shape
    (stored.under layers).rowCount.run g = (outer.1, g)
      ∧ (stored.under layers).columnCount.run g = (outer.2, g) := by
  intro outer
  have hgrids := (grids_stored g.shape).under layers
  have hshaped := (shaped_storedAs g.shape).under layers
  constructor
  · rw [(hgrids.rowCount g rfl).1, hshaped.rowCount]
    rfl
  · rw [(hgrids.columnCount g rfl).1, hshaped.columnCount]
    rfl

end Grid

/-! ## §4. Engines. -/

namespace Nest

open Cells

variable {ρ γ α β : Type} {N : Nest ρ γ α β} {m : Memo ρ γ} {g : Grid} {w : Int32}

/-- The shape of an engine behind layers, at any point of a session. -/
theorem Started.answer_shape_under (h : N.problem.Filled g w) (hm : N.Started g m)
    (layers : List Layer) :
    let outer := shapeUnder layers (N.problem.rows.size + 1, N.problem.columns.size + 1)
    (((N.engine.cells.under layers).rowCount.run m).answer = .ok outer.1)
      ∧ ((N.engine.cells.under layers).columnCount.run m).answer = .ok outer.2 := by
  intro outer
  obtain ⟨⟨H, haccount⟩, hfaithful⟩ := hm
  -- over sources that work once the engine answers like the one over the opened sequences
  have hgrids := N.grids.under layers
  have hshows := (Engine.shows_cells h).under layers
  constructor
  · rw [(hgrids.rowCount H m haccount).answer, hshows.rowCount m.plain hfaithful.grid]
  · rw [(hgrids.columnCount H m haccount).answer, hshows.columnCount m.plain hfaithful.grid]

/-- **Reads of an engine through a stack**, at any point of a session. -/
theorem Started.answer_read_under (h : N.problem.Filled g w) (hm : N.Started g m)
    (layers : List Layer) (row column : Nat) :
    (((N.engine.cells.under layers).read row column).run m).answer
      = .ok (readResult layers (N.problem.rows.size + 1, N.problem.columns.size + 1) g.read
          row column) := by
  obtain ⟨⟨H, haccount⟩, hfaithful⟩ := hm
  have hshape : g.shape = (N.problem.rows.size + 1, N.problem.columns.size + 1) :=
    Prod.ext h.rows_eq h.columns_eq
  rw [((N.grids.under layers).read row column H m haccount).answer,
    ((Engine.shows_cells h).under layers).read row column m.plain hfaithful.grid]
  show Except.ok ((Engine.layered g layers).read row column).run = _
  rw [Grid.read_layered, hshape]

end Nest

/-! ## §5. Grids and engines. -/

/-- **Reads through stacks of layers**, of a grid held in the state and of an engine after any
session.  The shape is exchanged if the number of transposed layers is odd.  A read succeeds exactly
inside that shape, and finds the cell at the coordinates exchanged once for each transposed layer;
any other read fails with the coordinates it was given and the outermost shape.  Stacks of equal
parity answer every read alike. -/
theorem reads_through_stacks :
    (∀ (g : Grid) (layers : List Cells.Layer),
      let v := Grid.stored.under layers
      let n := layers.count .transposed
      let outer := if Odd n then (g.columns, g.rows) else (g.rows, g.columns)
      v.rowCount.run g = (outer.1, g) ∧ v.columnCount.run g = (outer.2, g)
        ∧ ∀ row column,
          let cell := Prod.swap^[n] (row, column)
          let o := (v.read row column).run g
          ((∃ x, o.1 = .ok x) ↔ row < outer.1 ∧ column < outer.2)
            ∧ o = (if row < outer.1 ∧ column < outer.2 then g.read cell.1 cell.2
              else .error (.cellOutOfRange row column outer.1 outer.2), g))
    ∧ (∀ {ρ γ α β : Type} (N : Nest ρ γ α β), N.problem.Fits →
      ∃ g, N.problem.fill = .ok g
        ∧ ∀ (qs : List (Engine.Query α β)) (layers : List Cells.Layer),
          let m := (N.engine.session qs N.fresh).2
          let v := N.engine.cells.under layers
          let n := layers.count .transposed
          let rows := N.problem.rows.size + 1
          let columns := N.problem.columns.size + 1
          let outer := if Odd n then (columns, rows) else (rows, columns)
          (v.rowCount.run m).answer = .ok outer.1 ∧ (v.columnCount.run m).answer = .ok outer.2
            ∧ ∀ row column,
              let cell := Prod.swap^[n] (row, column)
              let answer := ((v.read row column).run m).answer
              ((∃ x, answer = .ok (.ok x)) ↔ row < outer.1 ∧ column < outer.2)
                ∧ answer = .ok (if row < outer.1 ∧ column < outer.2 then g.read cell.1 cell.2
                  else .error (.cellOutOfRange row column outer.1 outer.2)))
    ∧ ∀ layers layers' : List Cells.Layer,
      (Odd (layers.count .transposed) ↔ Odd (layers'.count .transposed)) → ∀ row column,
        (∀ g : Grid, ((Grid.stored.under layers).read row column).run g
          = ((Grid.stored.under layers').read row column).run g)
        ∧ ∀ {ρ γ α β : Type} (N : Nest ρ γ α β), N.problem.Fits →
          ∀ qs : List (Engine.Query α β),
            let m := (N.engine.session qs N.fresh).2
            (((N.engine.cells.under layers).read row column).run m).answer
              = (((N.engine.cells.under layers').read row column).run m).answer := by
  refine ⟨?_, ?_, ?_⟩
  · intro g layers v n outer
    have houter : Cells.shapeUnder layers g.shape = outer :=
      Cells.shapeUnder_eq_ite layers g.rows g.columns
    obtain ⟨hrows, hcolumns⟩ := Grid.run_shape_under g layers
    rw [houter] at hrows hcolumns
    refine ⟨hrows, hcolumns, ?_⟩
    intro row column cell o
    have ho : o = (Cells.readResult layers g.shape g.read row column, g) :=
      g.run_read_under layers row column
    obtain ⟨hok, hresult⟩ :=
      Cells.readResult_spec (fun _ _ => Grid.exists_read_iff) layers row column
    rw [ho]
    exact ⟨hok, Prod.ext hresult rfl⟩
  · intro ρ γ α β N hf
    obtain ⟨g, w, h⟩ := Problem.exists_filled hf
    refine ⟨g, h.fill, ?_⟩
    intro qs layers m v n rows columns outer
    have hm : N.Started g m := (N.started_fresh g).session h qs
    have houter : Cells.shapeUnder layers (rows, columns) = outer :=
      Cells.shapeUnder_eq_ite layers rows columns
    obtain ⟨hrows, hcolumns⟩ := hm.answer_shape_under h layers
    rw [houter] at hrows hcolumns
    refine ⟨hrows, hcolumns, ?_⟩
    intro row column cell answer
    have hanswer : answer = .ok (Cells.readResult layers (rows, columns) g.read row column) :=
      hm.answer_read_under h layers row column
    have hshape : g.shape = (rows, columns) := Prod.ext h.rows_eq h.columns_eq
    obtain ⟨hok, hresult⟩ := Cells.readResult_spec
      (fun _ _ => hshape ▸ Grid.exists_read_iff) layers row column
    rw [hanswer]
    refine ⟨?_, congrArg Except.ok hresult⟩
    simp only [Except.ok.injEq]
    exact hok
  · intro layers layers' hparity row column
    constructor
    · intro g
      rw [g.run_read_under, g.run_read_under]
      exact Prod.ext (Cells.readResult_congr hparity g.read) rfl
    · intro ρ γ α β N hf qs m
      obtain ⟨g, w, h⟩ := Problem.exists_filled hf
      have hm : N.Started g m := (N.started_fresh g).session h qs
      rw [hm.answer_read_under h, hm.answer_read_under h, Cells.readResult_congr hparity]

/-- Three exchanges make a grid of five rows and three columns one of three rows and five columns,
as one exchange does; the fault names that shape although the innermost layer has the other one. -/
theorem reads_through_stacks_oblong :
    let N := Nest.ofProblem (.ofStrings "ABCB" "BD")
    let m := (N.engine.session [.length] N.fresh).2
    let layers : List Cells.Layer := [.transposed, .shared, .transposed, .exclusive, .transposed]
    let v := N.engine.cells.under layers
    N.problem.Fits ∧ (v.rowCount.run m).answer = .ok 3
      ∧ (∃ g, N.problem.fill = .ok g
        ∧ ((v.read 1 4).run m).answer = .ok (g.read 4 1)
        ∧ ((v.read 4 1).run m).answer = .ok (.error (.cellOutOfRange 4 1 3 5)))
      ∧ (Odd (layers.count .transposed) ↔ Odd ([Cells.Layer.transposed].count .transposed))
      ∧ ((v.read 4 1).run m).answer
        = (((N.engine.cells.under [.transposed]).read 4 1).run m).answer := by
  intro N m layers v
  have hfits : N.problem.Fits := by decide
  have hparity : Odd (layers.count .transposed)
      ↔ Odd ([Cells.Layer.transposed].count .transposed) := by decide
  obtain ⟨g, hfill, hsession⟩ := reads_through_stacks.2.1 N hfits
  obtain ⟨hrows, _, hread⟩ := hsession [.length] layers
  have houter : (if Odd (layers.count .transposed) then
      (N.problem.columns.size + 1, N.problem.rows.size + 1)
      else (N.problem.rows.size + 1, N.problem.columns.size + 1)) = (3, 5) := by decide
  rw [houter] at hrows hread
  refine ⟨hfits, hrows, ⟨g, hfill, (hread 1 4).2, (hread 4 1).2⟩, hparity, ?_⟩
  exact (reads_through_stacks.2.2 layers [.transposed] hparity 4 1).2 N hfits [.length]

end CommonSubsequence
