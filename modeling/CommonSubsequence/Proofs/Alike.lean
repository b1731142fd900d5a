/-
  CommonSubsequence.Proofs.Alike — problems that the program cannot tell apart.

  Of a sequence the program sees the size and, at each position below it, whether there is an
  element; of two elements it sees the verdict.  Problems that are alike in this have the same
  grid and the same walks, and walks that are cut short end with the same fault.  Elements may be
  of another kind, and whatever lies at or past a size is not looked at.

  Main results:
    * `Problem.Alike.fill_eq` — the same grid.
    * `Problem.Alike.backtrack_eq` — the same trail, move by move and fault by fault.
    * `Problem.Alike.length_eq`, `Problem.Alike.path_eq` — the same answers.
-/
import CommonSubsequence.Proofs.Backtracking

namespace CommonSubsequence

/-! ## §1. A grid is what can be read of it. -/

namespace Grid

variable {g g' : Grid} {rows columns : Nat} {f : Nat → Nat → Nat}

/-- Grids of one shape that are read alike are the same grid. -/
theorem ext_read (hrows : g.rows = g'.rows) (hcolumns : g.columns = g'.columns)
    (hread : ∀ r c, g.InRange r c → g.read r c = g'.read r c) : g = g' := by
  obtain ⟨rows, columns, cells, hsize⟩ := g
  obtain ⟨rows', columns', cells', hsize'⟩ := g'
  dsimp only at hrows hcolumns
  subst hrows hcolumns
  rw [Grid.mk.injEq]
  refine ⟨rfl, rfl, Array.ext (hsize.trans hsize'.symm) ?_⟩
  intro k hk hk'
  -- the place `k` belongs to one cell, found by dividing by the length of a row
  have hlt : k < rows * columns := hsize ▸ hk
  have hpos : 0 < columns := Nat.pos_of_mul_pos_left (Nat.lt_of_le_of_lt (Nat.zero_le k) hlt)
  have hplace : k / columns * columns + k % columns = k := Nat.div_add_mod' k columns
  have hrow : k / columns < rows := Nat.div_lt_of_lt_mul (Nat.mul_comm rows columns ▸ hlt)
  have hcolumn : k % columns < columns := Nat.mod_lt k hpos
  have hcell : ∀ (cs : Array Int32) (hcs : cs.size = rows * columns) (hlt : k < cs.size),
      (⟨rows, columns, cs, hcs⟩ : Grid).read (k / columns) (k % columns) = .ok cs[k] := by
    intro cs hcs hlt
    have hin : (⟨rows, columns, cs, hcs⟩ : Grid).InRange (k / columns) (k % columns) :=
      ⟨hrow, hcolumn⟩
    rw [read_of_inRange hin]
    unfold get place
    simp only [hplace]
  have hsame := hread (k / columns) (k % columns) ⟨hrow, hcolumn⟩
  rw [hcell cells hsize hk, hcell cells' hsize' hk', Except.ok.injEq] at hsame
  exact hsame

/-- The numbers determine the grid that holds them. -/
theorem Holds.unique (h : g.Holds rows columns f) (h' : g'.Holds rows columns f) : g = g' := by
  refine ext_read (h.rows_eq.trans h'.rows_eq.symm) (h.columns_eq.trans h'.columns_eq.symm) ?_
  intro r c hin
  obtain ⟨hr, hc⟩ := hin
  rw [h.rows_eq] at hr
  rw [h.columns_eq] at hc
  rw [h.read_eq r hr c hc, h'.read_eq r hr c hc]

end Grid

/-! ## §2. Turns from elements that can or cannot be read. -/

namespace Problem

section Turns

variable {α β : Type} {p : Problem α β} {g : Grid} {i j : Nat}

/-- A missing row element ends the walk before the column element is read. -/
theorem turn_of_row_none (hx : p.rows.get? i = none) :
    p.turn g i j = .error (.indexOutOfRange i p.rows.size) := by
  unfold turn
  rw [Indexed.read_eq_error_iff.2 ⟨hx, rfl⟩]
  rfl

/-- If only the column element is missing, the turn fails with its fault. -/
theorem turn_of_column_none {x : α} (hx : p.rows.get? i = some x)
    (hy : p.columns.get? j = none) :
    p.turn g i j = .error (.indexOutOfRange j p.columns.size) := by
  unfold turn
  rw [Indexed.read_eq_ok_iff.2 hx, Indexed.read_eq_error_iff.2 ⟨hy, rfl⟩]
  rfl

/-- Where to go after a mismatch, from the two neighbouring cells. -/
def turnAside (g : Grid) (i j : Nat) : Except Fault Turn := do
  let above ← g.read i (j + 1)
  let beside ← g.read (i + 1) j
  pure (if above < beside then .left else .up)

/-- Once both elements are read, only their verdict counts. -/
theorem turn_of_get? {x : α} {y : β} (hx : p.rows.get? i = some x)
    (hy : p.columns.get? j = some y) :
    p.turn g i j = if p.verdicts i j then .ok .diagonal else turnAside g i j := by
  unfold turn
  rw [Indexed.read_eq_ok_iff.2 hx, Indexed.read_eq_ok_iff.2 hy, verdicts_of_get? hx hy]
  rfl

end Turns

/-! ## §3. Problems that are alike. -/

variable {α β α' β' : Type} {p : Problem α β} {p' : Problem α' β'} {g : Grid}

/-- Equal sizes, elements at the same positions below them, and the same verdicts there. -/
structure Alike (p : Problem α β) (p' : Problem α' β') : Prop where
  rows_size : p.rows.size = p'.rows.size
  columns_size : p.columns.size = p'.columns.size
  rows_readable : ∀ i < p.rows.size, (p.rows.get? i).isSome = (p'.rows.get? i).isSome
  columns_readable : ∀ j < p.columns.size,
    (p.columns.get? j).isSome = (p'.columns.get? j).isSome
  verdicts_eq : ∀ i < p.rows.size, ∀ j < p.columns.size, p.verdicts i j = p'.verdicts i j

/-- Sequences with the same elements below the same size are alike under the same verdict. -/
theorem alike_of_get? {rows rows' : Indexed α} {columns columns' : Indexed β}
    {agree : α → β → Bool} (hrows : rows'.size = rows.size)
    (hcolumns : columns'.size = columns.size)
    (hrow : ∀ i < rows.size, rows'.get? i = rows.get? i)
    (hcolumn : ∀ j < columns.size, columns'.get? j = columns.get? j) :
    Alike (⟨rows, columns, agree⟩ : Problem α β) ⟨rows', columns', agree⟩ := by
  refine ⟨hrows.symm, hcolumns.symm, ?_, ?_, ?_⟩
  · intro i hi
    show (rows.get? i).isSome = (rows'.get? i).isSome
    rw [hrow i hi]
  · intro j hj
    show (columns.get? j).isSome = (columns'.get? j).isSome
    rw [hcolumn j hj]
  · intro i hi j hj
    unfold verdicts
    dsimp only
    rw [hrow i hi, hcolumn j hj]

namespace Alike

/-- Every cell holds the same number. -/
theorem cell_eq (h : p.Alike p') {r c : Nat} (hr : r ≤ p.rows.size) (hc : c ≤ p.columns.size) :
    p.cell r c = p'.cell r c := by
  unfold cell
  rw [Indexed.length_items, Indexed.length_items, Indexed.length_items, Indexed.length_items,
    Indexed.firstHole_congr h.rows_size h.rows_readable,
    Indexed.firstHole_congr h.columns_size h.columns_readable]
  have hbest : p.verdicts.best r c = p'.verdicts.best r c := by
    refine Verdicts.best_congr ?_
    intro i hi j hj
    exact h.verdicts_eq i (by omega) j (by omega)
  rw [hbest]

theorem fits_iff (h : p.Alike p') : p.Fits ↔ p'.Fits := by
  unfold Fits
  rw [h.rows_size, h.columns_size]

/-- **Problems that are alike have the same grid.** -/
theorem fill_eq (h : p.Alike p') (hf : p.Fits) : p.fill = p'.fill := by
  obtain ⟨g, hfill, hholds⟩ := fill_spec hf
  obtain ⟨g', hfill', hholds'⟩ := fill_spec (h.fits_iff.1 hf)
  rw [← h.rows_size, ← h.columns_size] at hholds'
  have hg : g = g' := by
    refine Grid.Holds.unique hholds (hholds'.congr ?_)
    intro r hr c hc
    exact (h.cell_eq (by omega) (by omega)).symm
  rw [hfill, hfill', hg]

theorem filled (h : p.Alike p') (hf : p.Fits) {w : Int32} (hp : p.Filled g w) :
    p'.Filled g w := by
  obtain ⟨hfill, hcorner, hrows, hcolumns⟩ := hp
  unfold corner at hcorner
  rw [h.rows_size, h.columns_size] at hcorner
  rw [h.rows_size] at hrows
  rw [h.columns_size] at hcolumns
  exact ⟨(h.fill_eq hf).symm.trans hfill, hcorner, hrows, hcolumns⟩

/-- A turn sees whether there are elements, and their verdict. -/
theorem turn_eq (h : p.Alike p') {i j : Nat} (hi : i < p.rows.size) (hj : j < p.columns.size) :
    p.turn g i j = p'.turn g i j := by
  have hrow := h.rows_readable i hi
  have hcolumn := h.columns_readable j hj
  cases hx : p.rows.get? i with
  | none =>
    rw [hx] at hrow
    have hx' : p'.rows.get? i = none := by simpa using hrow.symm
    rw [turn_of_row_none hx, turn_of_row_none hx', h.rows_size]
  | some x =>
    rw [hx] at hrow
    obtain ⟨x', hx'⟩ := Option.isSome_iff_exists.1 hrow.symm
    cases hy : p.columns.get? j with
    | none =>
      rw [hy] at hcolumn
      have hy' : p'.columns.get? j = none := by simpa using hcolumn.symm
      rw [turn_of_column_none hx hy, turn_of_column_none hx' hy', h.columns_size]
    | some y =>
      rw [hy] at hcolumn
      obtain ⟨y', hy'⟩ := Option.isSome_iff_exists.1 hcolumn.symm
      rw [turn_of_get? hx hy, turn_of_get? hx' hy', h.verdicts_eq i hi j hj]

/-- Walks through one grid take the same turns, and stop at the same cell. -/
theorem walk_eq (h : p.Alike p') {r c : Nat} (hr : r ≤ p.rows.size) (hc : c ≤ p.columns.size) :
    p.walk g r c = p'.walk g r c := by
  fun_induction walk p g r c with
  | case1 column => rw [walk_zero_left]
  | case2 row => rw [walk_zero_right]
  | case3 i j hturn ih =>
    rw [h.turn_eq (by omega) (by omega)] at hturn
    rw [ih (by omega) (by omega), walk.eq_3, hturn]
  | case4 i j hturn ih =>
    rw [h.turn_eq (by omega) (by omega)] at hturn
    rw [ih hr (by omega), walk.eq_3, hturn]
  | case5 i j hturn ih =>
    rw [h.turn_eq (by omega) (by omega)] at hturn
    rw [ih (by omega) hc, walk.eq_3, hturn]
  | case6 i j f hturn =>
    rw [h.turn_eq (by omega) (by omega)] at hturn
    rw [walk.eq_3, hturn]

/-- **Problems that are alike are walked alike.** -/
theorem backtrack_eq (h : p.Alike p') (g : Grid) : p.backtrack g = p'.backtrack g := by
  unfold backtrack
  rw [h.walk_eq (Nat.le_refl _) (Nat.le_refl _), h.rows_size, h.columns_size]

theorem length_eq (h : p.Alike p') (hf : p.Fits) : p.length = p'.length := by
  unfold length corner
  rw [h.fill_eq hf, h.rows_size, h.columns_size]

theorem path_eq (h : p.Alike p') (hf : p.Fits) : p.path = p'.path := by
  unfold path
  rw [h.fill_eq hf]
  simp only [h.backtrack_eq]

end Alike

end Problem

end CommonSubsequence
