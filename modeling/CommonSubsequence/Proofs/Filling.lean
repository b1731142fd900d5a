/-
  CommonSubsequence.Proofs.Filling — the two nested loops compute the common lengths.

  While the grid is filled, the cells written so far hold common lengths and all others are zero
  (`Problem.Stage`).  The next cell reads three cells that are already written, so the invariant
  moves on by one cell, by one row, and through all rows.  Nothing is assumed of the sequences:
  filling stops at the first hole of either one, and the cells beyond stay zero.

  The cells are 32-bit integers.  A common length is at most the shorter size, and a grid whose
  bytes can be allocated has no two sizes that reach the 31st power of two: no sum wraps.

  Main results:
    * `Problem.best_lt_of_fits` — every common length is less than the 31st power of two.
    * `Problem.cellValue_of_stage` — one cell of the loop.
    * `Problem.fill_spec` — the grid of a problem of allocatable shape, cell by cell.
-/
import CommonSubsequence.Proofs.Verdicts

namespace CommonSubsequence

/-! ## §1. Small numbers as cells. -/

/-- The greater one of two small numbers is found in 32 bits as well. -/
theorem max_ofNat {a b : Nat} (ha : a < 2147483648) (hb : b < 2147483648) :
    max (Int32.ofNat a) (Int32.ofNat b) = Int32.ofNat (max a b) := by
  show (if Int32.ofNat a ≤ Int32.ofNat b then Int32.ofNat b else Int32.ofNat a) = _
  have hle := Int32.ofNat_le_iff_le ha hb
  by_cases h : a ≤ b
  · rw [if_pos (hle.2 h), Nat.max_eq_right h]
  · rw [if_neg fun hc => h (hle.1 hc), Nat.max_eq_left (by omega)]

theorem Problem.count_ofNat {k : Nat} (h : k < 2147483648) : Problem.count (Int32.ofNat k) = k := by
  unfold Problem.count
  rw [Int32.toInt64_ofNat' (by show (k : Int) ≤ 2147483647; omega)]
  show k % 18446744073709551616 = k
  omega

/-- In a grid that can be allocated the shorter axis is less than the 31st power of two. -/
theorem Grid.Fits.lt {r c k : Nat} (h : Grid.Fits r c) (hr : k < r) (hc : k < c) :
    k < 2147483648 := by
  apply Nat.lt_of_not_le
  intro hk
  have hmul : 2147483648 * 2147483648 ≤ r * c := Nat.mul_le_mul (by omega) (by omega)
  unfold Grid.Fits Grid.capacity at h
  omega

/-- A grid is allocated as well with its axes exchanged. -/
theorem Grid.Fits.symm {r c : Nat} (h : Grid.Fits r c) : Grid.Fits c r := by
  unfold Grid.Fits at h ⊢
  rw [Nat.mul_comm c r]
  exact h

/-- A grid inside of one that fits fits. -/
theorem Grid.Fits.mono {r c r' c' : Nat} (h : Grid.Fits r' c') (hr : r ≤ r') (hc : c ≤ c') :
    Grid.Fits r c := by
  unfold Grid.Fits at h ⊢
  have hmul : r * c ≤ r' * c' := Nat.mul_le_mul hr hc
  omega

/-! ## §2. Grids that hold given numbers. -/

namespace Grid

/-- A grid of the given shape whose cells are the values of `f`. -/
structure Holds (g : Grid) (rows columns : Nat) (f : Nat → Nat → Nat) : Prop where
  rows_eq : g.rows = rows
  columns_eq : g.columns = columns
  read_eq : ∀ r < rows, ∀ c < columns, g.read r c = .ok (Int32.ofNat (f r c))

namespace Holds

variable {g : Grid} {rows columns : Nat} {f f' : Nat → Nat → Nat}

/-- Numbers that are the same inside the shape are held alike. -/
theorem congr (h : g.Holds rows columns f) (hf : ∀ r < rows, ∀ c < columns, f r c = f' r c) :
    g.Holds rows columns f' := by
  refine ⟨h.rows_eq, h.columns_eq, ?_⟩
  intro r hr c hc
  rw [h.read_eq r hr c hc, hf r hr c hc]

theorem zeros (rows columns : Nat) : (Grid.zeros rows columns).Holds rows columns fun _ _ => 0 := by
  refine ⟨rfl, rfl, ?_⟩
  intro r hr c hc
  have hin : (Grid.zeros rows columns).InRange r c := ⟨hr, hc⟩
  rw [Grid.read_of_inRange hin, Grid.get_zeros hin]
  rfl

/-- A write inside the shape succeeds and changes the number at its own coordinates only. -/
theorem write (h : g.Holds rows columns f) {r c k : Nat} (hr : r < rows) (hc : c < columns) :
    ∃ g', g.write r c (Int32.ofNat k) = .ok g' ∧
      g'.Holds rows columns fun r' c' => if r = r' ∧ c = c' then k else f r' c' := by
  have hin : g.InRange r c := ⟨by rw [h.rows_eq]; exact hr, by rw [h.columns_eq]; exact hc⟩
  refine ⟨_, Grid.write_of_inRange hin, h.rows_eq, h.columns_eq, ?_⟩
  intro r' hr' c' hc'
  rw [Grid.read_set hin]
  split
  · rfl
  · exact h.read_eq r' hr' c' hc'

end Holds

end Grid

/-! ## §3. The invariant of the loops. -/

/-- Whether a border cell counts as written makes no difference: its common length is zero. -/
theorem Verdicts.ite_best_congr {v : Verdicts} {r c : Nat} {P Q : Prop} [Decidable P] [Decidable Q]
    (h : (P ↔ Q) ∨ c = 0) : (if P then v.best r c else 0) = if Q then v.best r c else 0 := by
  rcases h with h | rfl
  · by_cases hq : Q
    · rw [if_pos (h.2 hq), if_pos hq]
    · rw [if_neg fun hp => hq (h.1 hp), if_neg hq]
  · rw [Verdicts.best_zero_right, ite_self, ite_self]

namespace Problem

variable {α β : Type} {p : Problem α β}

/-- If the grid fits, every common length is small enough for a cell. -/
theorem best_lt_of_fits (hf : p.Fits) {r c : Nat} (hr : r ≤ p.rows.size)
    (hc : c ≤ p.columns.size) : p.verdicts.best r c < 2147483648 := by
  obtain ⟨hbr, hbc⟩ := p.verdicts.best_le r c
  exact hf.lt (by omega) (by omega)

/-- The grid after `i` complete rows of cells and `j` cells of the next row, where a row is
complete after `m` cells. -/
def Stage (p : Problem α β) (m i j : Nat) (g : Grid) : Prop :=
  g.Holds (p.rows.size + 1) (p.columns.size + 1) fun r c =>
    if (r ≤ i ∧ c ≤ m) ∨ (r = i + 1 ∧ c ≤ j) then p.verdicts.best r c else 0

/-- At a stage the cells that are done hold common lengths. -/
theorem Stage.read {m i j r c : Nat} {g : Grid} (h : p.Stage m i j g)
    (hr : r ≤ p.rows.size) (hc : c ≤ p.columns.size)
    (hw : (r ≤ i ∧ c ≤ m) ∨ (r = i + 1 ∧ c ≤ j)) :
    g.read r c = .ok (Int32.ofNat (p.verdicts.best r c)) := by
  rw [h.read_eq r (by omega) c (by omega), if_pos hw]

/-- The value computed for the next cell is its common length. -/
theorem cellValue_of_stage (hf : p.Fits) {m i j : Nat} {g : Grid} {x : α} {y : β}
    (hx : p.rows.get? i = some x) (hy : p.columns.get? j = some y) (hi : i < p.rows.size)
    (hj : j < m) (hm : m ≤ p.columns.size) (h : p.Stage m i j g) :
    p.cellValue x y i j g = .ok (Int32.ofNat (p.verdicts.best (i + 1) (j + 1))) := by
  have hv := verdicts_of_get? hx hy
  have hdiag := h.read (r := i) (c := j) (by omega) (by omega) (by omega)
  have habove := h.read (r := i) (c := j + 1) (by omega) (by omega) (by omega)
  have hbeside := h.read (r := i + 1) (c := j) (by omega) (by omega) (by omega)
  unfold cellValue
  cases hagree : p.agree x y with
  | true =>
    rw [if_pos rfl, hdiag, Verdicts.best_of_match (hv.trans hagree), Int32.ofNat_add]
    rfl
  | false =>
    -- both neighbours are small, so the greater cell is the greater number
    have hsa := best_lt_of_fits hf (r := i) (c := j + 1) (by omega) (by omega)
    have hsb := best_lt_of_fits hf (r := i + 1) (c := j) (by omega) (by omega)
    rw [if_neg (by simp), habove, hbeside, Verdicts.best_of_mismatch (hv.trans hagree),
      ← max_ofNat hsa hsb]
    rfl

/-- The innermost step moves the invariant on by one cell. -/
theorem fillCell_of_stage (hf : p.Fits) {m i j : Nat} {g : Grid} {x : α} {y : β}
    (hx : p.rows.get? i = some x) (hy : p.columns.get? j = some y) (hi : i < p.rows.size)
    (hj : j < m) (hm : m ≤ p.columns.size) (h : p.Stage m i j g) :
    ∃ g', p.fillCell x y i j g = .ok g' ∧ p.Stage m i (j + 1) g' := by
  obtain ⟨g', hwrite, hholds⟩ := Grid.Holds.write h (r := i + 1) (c := j + 1)
    (k := p.verdicts.best (i + 1) (j + 1)) (by omega) (by omega)
  refine ⟨g', ?_, hholds.congr ?_⟩
  · unfold fillCell
    rw [cellValue_of_stage hf hx hy hi hj hm h]
    exact hwrite
  · intro r hr c hc
    -- the cell just written, one written before, or one that is still zero
    by_cases hcell : i + 1 = r ∧ j + 1 = c
    · obtain ⟨rfl, rfl⟩ := hcell
      rw [if_pos ⟨rfl, rfl⟩, if_pos (by omega)]
    · rw [if_neg hcell]
      by_cases hw : (r ≤ i ∧ c ≤ m) ∨ (r = i + 1 ∧ c ≤ j)
      · rw [if_pos hw, if_pos (by omega)]
      · rw [if_neg hw, if_neg (by omega)]

/-- A row moves the invariant on by the cells for the column elements that are left to fill. -/
theorem fillRow_of_stage (hf : p.Fits) {m k i : Nat} {x : α} (hx : p.rows.get? i = some x)
    (hi : i < p.rows.size) (hm : m ≤ p.columns.size) (hk : k ≤ m) (n j : Nat) (g : Grid)
    (hj : j + (p.columns.itemsFrom n j).length = k) (h : p.Stage m i j g) :
    ∃ g', p.fillRow x i (p.columns.itemsFrom n j) j g = .ok g' ∧ p.Stage m i k g' := by
  induction n generalizing j g with
  | zero =>
    have hjk : j = k := hj
    exact ⟨g, rfl, hjk ▸ h⟩
  | succ n ih =>
    unfold Indexed.itemsFrom at hj ⊢
    cases hy : p.columns.get? j with
    | none =>
      -- the columns end at this hole, whatever size they declare
      rw [hy] at hj
      have hjk : j = k := hj
      exact ⟨g, rfl, hjk ▸ h⟩
    | some y =>
      rw [hy] at hj
      rw [List.length_cons] at hj
      obtain ⟨g₁, hcell, hstage⟩ := fillCell_of_stage hf hx hy hi (by omega) hm h
      obtain ⟨g₂, hrow, hdone⟩ := ih (j + 1) g₁ (by omega) hstage
      refine ⟨g₂, ?_, hdone⟩
      show p.fillRow x i (y :: p.columns.itemsFrom n (j + 1)) j g = .ok g₂
      rw [fillRow, hcell]
      exact hrow

/-- A complete row is the start of the next one. -/
theorem Stage.nextRow {m i : Nat} {g : Grid} (h : p.Stage m i m g) : p.Stage m (i + 1) 0 g := by
  refine h.congr ?_
  intro r hr c hc
  -- the two stages disagree on the first cell of the new row only
  exact Verdicts.ite_best_congr (by omega)

/-- A new grid is the stage in front of the first row. -/
theorem stage_zeros (p : Problem α β) (m : Nat) :
    p.Stage m 0 0 (Grid.zeros (p.rows.size + 1) (p.columns.size + 1)) := by
  refine (Grid.Holds.zeros _ _).congr ?_
  intro r hr c hc
  split
  · -- before the first row only border cells count as written
    have hborder : r = 0 ∨ c = 0 := by omega
    rcases hborder with rfl | rfl <;> simp
  · rfl

/-- All rows move the invariant on by the rows for the row elements that are left. -/
theorem fillRows_of_stage (hf : p.Fits) {m k : Nat} (hm : p.columns.items.length = m)
    (hk : k ≤ p.rows.size) (n i : Nat) (g : Grid) (hi : i + (p.rows.itemsFrom n i).length = k)
    (h : p.Stage m i 0 g) :
    ∃ g', p.fillRows p.columns.items (p.rows.itemsFrom n i) i g = .ok g' ∧ p.Stage m k 0 g' := by
  induction n generalizing i g with
  | zero =>
    have hik : i = k := hi
    exact ⟨g, rfl, hik ▸ h⟩
  | succ n ih =>
    unfold Indexed.itemsFrom at hi ⊢
    cases hx : p.rows.get? i with
    | none =>
      -- the rows end at this hole
      rw [hx] at hi
      have hik : i = k := hi
      exact ⟨g, rfl, hik ▸ h⟩
    | some x =>
      rw [hx] at hi
      rw [List.length_cons] at hi
      have hmle : m ≤ p.columns.size := hm ▸ p.columns.length_itemsFrom_le p.columns.size 0
      have hcount : 0 + p.columns.items.length = m := by omega
      obtain ⟨g₁, hrow, hstage⟩ :=
        fillRow_of_stage hf hx (by omega) hmle (Nat.le_refl m) _ 0 g hcount h
      obtain ⟨g₂, hrows, hdone⟩ := ih (i + 1) g₁ (by omega) hstage.nextRow
      refine ⟨g₂, ?_, hdone⟩
      show p.fillRows p.columns.items (x :: p.rows.itemsFrom n (i + 1)) i g = .ok g₂
      unfold fillRows
      rw [show p.fillRow x i p.columns.items 0 g = .ok g₁ from hrow]
      exact hrows

/-! ## §4. The finished grid. -/

/-- What cell `(r, c)` of the finished grid holds: the common length where both sequences can be
read in order that far, zero beyond a hole. -/
def cell (p : Problem α β) (r c : Nat) : Nat :=
  if r ≤ p.rows.items.length ∧ c ≤ p.columns.items.length then p.verdicts.best r c else 0

/-- Filling succeeds whenever the cells can be allocated. -/
theorem fill_spec (hf : p.Fits) :
    ∃ g, p.fill = .ok g ∧ g.Holds (p.rows.size + 1) (p.columns.size + 1) p.cell := by
  have hk : p.rows.items.length ≤ p.rows.size := p.rows.length_itemsFrom_le p.rows.size 0
  have hcount : 0 + p.rows.items.length = p.rows.items.length := Nat.zero_add _
  obtain ⟨g, hrows, hstage⟩ :=
    fillRows_of_stage hf rfl hk p.rows.size 0 _ hcount (p.stage_zeros p.columns.items.length)
  refine ⟨g, ?_, hstage.congr ?_⟩
  · unfold fill
    rw [Grid.allocate_of_fits (Nat.succ_pos _) (Nat.succ_pos _) hf]
    exact hrows
  · intro r hr c hc
    -- `Problem.cell` leaves out the border cell of the row after the last one
    exact Verdicts.ite_best_congr (by omega)

/-- No cell exceeds the common length of its corner. -/
theorem cell_le_best (p : Problem α β) (r c : Nat) : p.cell r c ≤ p.verdicts.best r c := by
  unfold cell
  split
  · exact Nat.le_refl _
  · exact Nat.zero_le _

/-- The bottom right cell of the finished grid. -/
theorem corner_of_cell {g : Grid}
    (h : g.Holds (p.rows.size + 1) (p.columns.size + 1) p.cell) :
    p.corner g = .ok (Int32.ofNat (p.cell p.rows.size p.columns.size)) :=
  h.read_eq p.rows.size (by omega) p.columns.size (by omega)

/-- The length of a problem is what its grid has in the corner. -/
theorem length_of_corner {g : Grid} {w : Int32} (hfill : p.fill = .ok g)
    (hcorner : p.corner g = .ok w) : p.length = .ok (count w) := by
  unfold length
  rw [hfill]
  show (p.corner g >>= fun v => pure (count v)) = _
  rw [hcorner]
  rfl

/-- `g` is the grid of the problem and `w` its bottom right cell. -/
structure Filled (p : Problem α β) (g : Grid) (w : Int32) : Prop where
  fill : p.fill = .ok g
  corner : p.corner g = .ok w
  rows_eq : g.rows = p.rows.size + 1
  columns_eq : g.columns = p.columns.size + 1

/-- A grid whose cells can be allocated is filled without a fault. -/
theorem exists_filled (hf : p.Fits) : ∃ g w, p.Filled g w := by
  obtain ⟨g, hfill, hg⟩ := fill_spec hf
  exact ⟨g, _, hfill, corner_of_cell hg, hg.rows_eq, hg.columns_eq⟩

end Problem

end CommonSubsequence
