/-
  CommonSubsequence.Proofs.Exactness — while the grid is filled, no sum wraps.

  The cells are 32-bit integers, the sequences are counted by natural numbers, and the loops check
  nothing.  Their arithmetic is exact all the same: no cell exceeds either of its coordinates, and
  where the bytes of a grid can be allocated the smaller coordinate of a cell is less than the 31st
  power of two.  (A bound on the number of cells would not do: there are shapes of fewer than 2^63
  cells both of whose axes reach 2^31.)

  The loops are followed step by step.  `Problem.during` is the grid after some complete rows and
  some cells of the next one; it is what the program's own loops leave when they are given only the
  elements up to there, and it moves on by one cell, and from row to row, until the grid is filled.

  Main results:
    * `Problem.during_succ`, `Problem.afterRows_succ` — one step of either loop.
    * `Problem.exists_during` — the invariant of the loops at any point between two cells.
    * `Problem.exactly_of_stage`, `Problem.exists_exactly` — one cell, in exact arithmetic.
    * `fill_exact` — the whole of filling, and the length that is read off.
-/
import CommonSubsequence.Alignment.Agreement
import CommonSubsequence.Proofs.Filling

namespace CommonSubsequence

/-! ## §1. Cells that exceed neither coordinate, elements that a loop has come to. -/

namespace Grid

/-- A grid that was allocated is a new one, and its bytes fit. -/
theorem of_allocate {rows columns : Nat} {g : Grid} (h : allocate rows columns = .ok g) :
    Fits rows columns ∧ g = zeros rows columns := by
  unfold allocate at h
  split at h
  · cases h
  · split at h
    · rename_i hfits
      exact ⟨hfits, (Except.ok.inj h).symm⟩
    · cases h

/-- No cell is negative, and none exceeds either of its coordinates. -/
def Bounded (g : Grid) : Prop :=
  ∀ r c, g.InRange r c → ∃ w, g.read r c = .ok w ∧ 0 ≤ w.toInt ∧ w.toInt ≤ (min r c : Nat)

/-- Numbers that exceed neither coordinate are small enough for the cells. -/
theorem Holds.bounded {g : Grid} {rows columns : Nat} {f : Nat → Nat → Nat}
    (h : g.Holds rows columns f) (hfits : Fits rows columns) (hf : ∀ r c, f r c ≤ min r c) :
    g.Bounded := by
  intro r c hin
  obtain ⟨hr, hc⟩ := hin
  rw [h.rows_eq] at hr
  rw [h.columns_eq] at hc
  have hle := hf r c
  have hsmall : f r c < 2147483648 := by
    have hmin : min r c < 2147483648 := hfits.lt (by omega) (by omega)
    omega
  refine ⟨_, h.read_eq r hr c hc, ?_⟩
  rw [Int32.toInt_ofNat_of_lt hsmall]
  omega

end Grid

namespace Indexed

variable {α : Type} {s : Indexed α} {i : Nat}

/-- What is found by reading in order is found at its position, which is below the size. -/
theorem get?_of_items {x : α} (h : s.items[i]? = some x) : i < s.size ∧ s.get? i = some x := by
  obtain ⟨hi, _, hget⟩ := getElem?_itemsFrom.1 h
  rw [Nat.zero_add] at hget
  exact ⟨hi, hget⟩

/-- The elements that a loop has come to are found by as many reads. -/
theorem take_items (hi : i ≤ s.items.length) :
    s.items.take i = s.itemsFrom i 0 ∧ (s.itemsFrom i 0).length = i := by
  have hsize : i ≤ s.size := Nat.le_trans hi (s.length_itemsFrom_le s.size 0)
  have htake : s.items.take i = s.itemsFrom i 0 := s.take_itemsFrom hsize 0
  refine ⟨htake, ?_⟩
  rw [← htake, List.length_take]
  omega

end Indexed

namespace Problem

variable {α β : Type} {p : Problem α β} {x : α} {y : β} {i j : Nat} {g g' : Grid}

/-! ## §2. The grid while it is filled. -/

/-- The grid after `i` complete rows of cells. -/
def afterRows (p : Problem α β) (i : Nat) : Except Fault Grid := do
  let g ← Grid.allocate (p.rows.size + 1) (p.columns.size + 1)
  p.fillRows p.columns.items (p.rows.items.take i) 0 g

/-- The grid after `i` complete rows and the first `j` cells of the next one, if there is one. -/
def during (p : Problem α β) (i j : Nat) : Except Fault Grid := do
  let g ← p.afterRows i
  match p.rows.items[i]? with
  | some x => p.fillRow x i (p.columns.items.take j) 0 g
  | none => pure g

/-- To fill a row is to fill it up to its last cell, and then that one. -/
theorem fillRow_snoc (p : Problem α β) (x : α) (i : Nat) (ys : List β) (y : β) (j : Nat)
    (g : Grid) :
    p.fillRow x i (ys ++ [y]) j g
      = p.fillRow x i ys j g >>= p.fillCell x y i (j + ys.length) := by
  induction ys generalizing j g with
  | nil =>
    have hone : p.fillRow x i [y] j g = p.fillCell x y i j g := by
      rw [fillRow]
      cases p.fillCell x y i j g <;> rfl
    exact hone
  | cons z ys ih =>
    rw [List.cons_append, fillRow, fillRow, List.length_cons, ← Nat.add_assoc,
      Nat.add_right_comm j]
    cases p.fillCell x z i j g with
    | error f => rfl
    | ok g' => exact ih (j + 1) g'

/-- To fill the rows is to fill all but the last one, and then that one. -/
theorem fillRows_snoc (p : Problem α β) (ys : List β) (xs : List α) (x : α) (i : Nat)
    (g : Grid) :
    p.fillRows ys (xs ++ [x]) i g
      = p.fillRows ys xs i g >>= p.fillRow x (i + xs.length) ys 0 := by
  induction xs generalizing i g with
  | nil =>
    have hone : p.fillRows ys [x] i g = p.fillRow x i ys 0 g := by
      rw [fillRows]
      cases p.fillRow x i ys 0 g <;> rfl
    exact hone
  | cons z xs ih =>
    rw [List.cons_append, fillRows, fillRows, List.length_cons, ← Nat.add_assoc,
      Nat.add_right_comm i]
    cases p.fillRow z i ys 0 g with
    | error f => rfl
    | ok g' => exact ih (i + 1) g'

theorem during_of_row (hx : p.rows.items[i]? = some x) (j : Nat) :
    p.during i j = p.afterRows i >>= p.fillRow x i (p.columns.items.take j) 0 := by
  unfold during
  rw [hx]

theorem during_of_end (h : p.rows.items.length ≤ i) (j : Nat) : p.during i j = p.afterRows i := by
  unfold during
  rw [List.getElem?_eq_none h]
  exact bind_pure _

/-- The inner loop goes on by one cell. -/
theorem during_succ (hx : p.rows.items[i]? = some x) (hy : p.columns.items[j]? = some y) :
    p.during i (j + 1) = p.during i j >>= p.fillCell x y i j := by
  have hlength : (p.columns.items.take j).length = j := by
    rw [List.length_take]
    have hj := (List.getElem?_eq_some_iff.1 hy).1
    omega
  rw [during_of_row hx, during_of_row hx, bind_assoc, List.take_add_one, hy]
  refine bind_congr fun g => ?_
  rw [Option.toList_some, fillRow_snoc, hlength, Nat.zero_add]

/-- The outer loop goes on when a row is complete. -/
theorem afterRows_succ (hi : i < p.rows.items.length) :
    p.afterRows (i + 1) = p.during i p.columns.items.length := by
  have hx : p.rows.items[i]? = some p.rows.items[i] := List.getElem?_eq_getElem hi
  have hlength : (p.rows.items.take i).length = i := by
    rw [List.length_take]
    omega
  rw [during_of_row hx, List.take_length]
  unfold afterRows
  rw [bind_assoc, List.take_add_one, hx]
  refine bind_congr fun g => ?_
  rw [Option.toList_some, fillRows_snoc, hlength, Nat.zero_add]

/-- Before its first cell a row leaves the grid as the rows in front of it did. -/
theorem during_zero (p : Problem α β) (i : Nat) : p.during i 0 = p.afterRows i := by
  by_cases hi : i < p.rows.items.length
  · rw [during_of_row (List.getElem?_eq_getElem hi)]
    exact bind_pure _
  · exact during_of_end (Nat.le_of_not_lt hi) 0

/-- After the last row the grid is filled. -/
theorem fill_eq_afterRows (p : Problem α β) : p.fill = p.afterRows p.rows.items.length := by
  unfold fill afterRows
  rw [List.take_length]
  cases Grid.allocate (p.rows.size + 1) (p.columns.size + 1) <;> rfl

/-! ## §3. The invariant at every point. -/

theorem exists_afterRows (hf : p.Fits) (hi : i ≤ p.rows.items.length) :
    ∃ g, p.afterRows i = .ok g ∧ p.Stage p.columns.items.length i 0 g := by
  obtain ⟨htake, hlength⟩ := Indexed.take_items hi
  have hsize : i ≤ p.rows.size := Nat.le_trans hi (p.rows.length_itemsFrom_le p.rows.size 0)
  unfold afterRows
  rw [Grid.allocate_of_fits (Nat.succ_pos _) (Nat.succ_pos _) hf, htake]
  exact fillRows_of_stage hf rfl hsize i 0 _ (by omega) (p.stage_zeros p.columns.items.length)

/-- **Between any two cells the invariant of the loops holds.** -/
theorem exists_during (hf : p.Fits) (hx : p.rows.items[i]? = some x)
    (hj : j ≤ p.columns.items.length) :
    ∃ g, p.during i j = .ok g ∧ p.Stage p.columns.items.length i j g := by
  obtain ⟨htake, hlength⟩ := Indexed.take_items hj
  obtain ⟨hi, hget⟩ := Indexed.get?_of_items hx
  have hm : p.columns.items.length ≤ p.columns.size :=
    p.columns.length_itemsFrom_le p.columns.size 0
  obtain ⟨g, hrows, hstage⟩ :=
    exists_afterRows hf (Nat.le_of_lt (List.getElem?_eq_some_iff.1 hx).1)
  rw [during_of_row hx, hrows, htake]
  exact fillRow_of_stage hf hget hi hm hj j 0 g (by omega) hstage

/-- At every stage no cell exceeds either of its coordinates. -/
theorem Stage.bounded {m : Nat} (hf : p.Fits) (h : p.Stage m i j g) : g.Bounded := by
  refine Grid.Holds.bounded h hf ?_
  intro r c
  obtain ⟨hr, hc⟩ := p.verdicts.best_le r c
  split <;> omega

/-! ## §4. One cell. -/

/-- The cell after row element `x` at `i` and column element `y` at `j` is filled without a fault
and in exact arithmetic, which leads from the grid `g` to the grid `g'`. -/
structure Exactly (p : Problem α β) (x : α) (y : β) (i j : Nat) (g g' : Grid) : Prop where
  /-- The three cells that may be read, and the one that is written, lie in the grid. -/
  inRange : g.InRange i j ∧ g.InRange i (j + 1) ∧ g.InRange (i + 1) j ∧ g.InRange (i + 1) (j + 1)
  /-- After a match the sum is the sum of the integers. -/
  sum : p.agree x y = true → ∃ diagonal, g.read i j = .ok diagonal
    ∧ p.cellValue x y i j g = .ok (diagonal + 1) ∧ (diagonal + 1).toInt = diagonal.toInt + 1
  /-- After a mismatch the greater cell is the greater integer. -/
  greater : p.agree x y = false → ∃ above beside, g.read i (j + 1) = .ok above
    ∧ g.read (i + 1) j = .ok beside ∧ p.cellValue x y i j g = .ok (max above beside)
    ∧ (max above beside).toInt = max above.toInt beside.toInt
  /-- The value is not negative, exceeds neither coordinate of its cell, and is written there. -/
  value : ∃ v, p.cellValue x y i j g = .ok v ∧ 0 ≤ v.toInt ∧ v.toInt ≤ (min (i + 1) (j + 1) : Nat)
    ∧ g.write (i + 1) (j + 1) v = .ok g'

theorem Stage.inRange {m r c : Nat} (h : p.Stage m i j g) (hr : r ≤ p.rows.size)
    (hc : c ≤ p.columns.size) : g.InRange r c :=
  ⟨by rw [h.rows_eq]; omega, by rw [h.columns_eq]; omega⟩

/-- A cell is filled exactly at the stage in front of it. -/
theorem exactly_of_stage (hf : p.Fits) {m : Nat} (hx : p.rows.get? i = some x)
    (hy : p.columns.get? j = some y) (hi : i < p.rows.size) (hj : j < m)
    (hm : m ≤ p.columns.size) (h : p.Stage m i j g) (hcell : p.fillCell x y i j g = .ok g') :
    p.Exactly x y i j g g' := by
  have hvalue := cellValue_of_stage hf hx hy hi hj hm h
  have hsmall := best_lt_of_fits hf (r := i + 1) (c := j + 1) (by omega) (by omega)
  have hv := verdicts_of_get? hx hy
  refine ⟨⟨h.inRange (by omega) (by omega), h.inRange (by omega) (by omega),
    h.inRange (by omega) (by omega), h.inRange (by omega) (by omega)⟩, ?_, ?_, ?_⟩
  · intro hagree
    -- the diagonal cell holds one less than the value that is computed
    rw [Verdicts.best_of_match (hv.trans hagree)] at hvalue hsmall
    refine ⟨_, h.read (r := i) (c := j) (by omega) (by omega) (by omega), ?_, ?_⟩
    · rw [hvalue, Int32.ofNat_add]
      rfl
    · show (Int32.ofNat _ + Int32.ofNat 1).toInt = _
      rw [← Int32.ofNat_add, Int32.toInt_ofNat_of_lt hsmall,
        Int32.toInt_ofNat_of_lt (Nat.lt_of_succ_lt hsmall)]
      rfl
  · intro hagree
    have ha := best_lt_of_fits hf (r := i) (c := j + 1) (by omega) (by omega)
    have hb := best_lt_of_fits hf (r := i + 1) (c := j) (by omega) (by omega)
    rw [Verdicts.best_of_mismatch (hv.trans hagree)] at hvalue hsmall
    refine ⟨_, _, h.read (r := i) (c := j + 1) (by omega) (by omega) (by omega),
      h.read (r := i + 1) (c := j) (by omega) (by omega) (by omega), ?_, ?_⟩
    · rw [hvalue, max_ofNat ha hb]
    · rw [max_ofNat ha hb, Int32.toInt_ofNat_of_lt hsmall, Int32.toInt_ofNat_of_lt ha,
        Int32.toInt_ofNat_of_lt hb]
      omega
  · obtain ⟨hr, hc⟩ := p.verdicts.best_le (i + 1) (j + 1)
    refine ⟨_, hvalue, ?_⟩
    rw [Int32.toInt_ofNat_of_lt hsmall]
    refine ⟨by omega, by omega, ?_⟩
    unfold fillCell at hcell
    rw [hvalue] at hcell
    exact hcell

/-! ## §5. Every cell on the way, and the corner. -/

theorem exists_bounded (hf : p.Fits) (hi : i ≤ p.rows.items.length)
    (hj : j ≤ p.columns.items.length) :
    ∃ g, p.during i j = .ok g ∧ g.rows = p.rows.size + 1 ∧ g.columns = p.columns.size + 1
      ∧ g.Bounded := by
  rcases Nat.lt_or_eq_of_le hi with hi | rfl
  · obtain ⟨g, hduring, hstage⟩ := exists_during hf (List.getElem?_eq_getElem hi) hj
    exact ⟨g, hduring, hstage.rows_eq, hstage.columns_eq, hstage.bounded hf⟩
  · obtain ⟨g, hrows, hstage⟩ := exists_afterRows hf hi
    rw [during_of_end (Nat.le_refl _)]
    exact ⟨g, hrows, hstage.rows_eq, hstage.columns_eq, hstage.bounded hf⟩

/-- The loops come to every cell in front of the holes, and fill it exactly. -/
theorem exists_exactly (hf : p.Fits) (hx : p.rows.items[i]? = some x)
    (hy : p.columns.items[j]? = some y) :
    ∃ g g', p.during i j = .ok g ∧ p.during i (j + 1) = .ok g' ∧ p.Exactly x y i j g g' := by
  have hj := (List.getElem?_eq_some_iff.1 hy).1
  obtain ⟨hi, hgetx⟩ := Indexed.get?_of_items hx
  obtain ⟨_, hgety⟩ := Indexed.get?_of_items hy
  have hm := p.columns.length_itemsFrom_le p.columns.size 0
  obtain ⟨g, hduring, hstage⟩ := exists_during hf hx (Nat.le_of_lt hj)
  obtain ⟨g', hcell, _⟩ := fillCell_of_stage hf hgetx hgety hi hj hm hstage
  refine ⟨g, g', hduring, ?_, exactly_of_stage hf hgetx hgety hi hj hm hstage hcell⟩
  rw [during_succ hx hy, hduring]
  exact hcell

/-- The length is the integer in the corner. -/
theorem exists_corner (hf : p.Fits) :
    ∃ g w, p.fill = .ok g ∧ p.corner g = .ok w ∧ 0 ≤ w.toInt
      ∧ w.toInt ≤ (min p.rows.size p.columns.size : Nat) ∧ (count w : Int) = w.toInt
      ∧ p.length = .ok (count w) := by
  obtain ⟨g, hfill, hg⟩ := fill_spec hf
  have hcorner := corner_of_cell hg
  have hle := p.cell_le_best p.rows.size p.columns.size
  obtain ⟨hr, hc⟩ := p.verdicts.best_le p.rows.size p.columns.size
  have hsmall := best_lt_of_fits hf (Nat.le_refl p.rows.size) (Nat.le_refl p.columns.size)
  refine ⟨g, _, hfill, hcorner, ?_⟩
  rw [Int32.toInt_ofNat_of_lt (by omega), count_ofNat (by omega)]
  refine ⟨by omega, by omega, rfl, ?_⟩
  rw [length_of_corner hfill hcorner, count_ofNat (by omega)]

end Problem

/-! ## §6. The whole of filling. -/

/-- **Filling never wraps.**  Once the grid is allocated, for any sequences and any verdict: the
smaller coordinate of every cell is less than the 31st power of two; from the new grid to the
filled one, between any two cells, no cell is negative or exceeds either of its coordinates; every
cell on the way is filled without a fault and in exact arithmetic; and the corner is a cell whose
value is kept when it is counted. -/
theorem fill_exact {α β : Type} {p : Problem α β} {g₀ : Grid}
    (h : Grid.allocate (p.rows.size + 1) (p.columns.size + 1) = .ok g₀) :
    (∀ r ≤ p.rows.size, ∀ c ≤ p.columns.size, min r c < 2147483648)
      ∧ p.during 0 0 = .ok g₀
      ∧ (∀ i ≤ p.rows.items.length, ∀ j ≤ p.columns.items.length, ∃ g, p.during i j = .ok g
        ∧ g.rows = p.rows.size + 1 ∧ g.columns = p.columns.size + 1 ∧ g.Bounded)
      ∧ (∀ i x, p.rows.items[i]? = some x →
        (∀ j y, p.columns.items[j]? = some y → ∃ g g', p.during i j = .ok g
          ∧ p.during i (j + 1) = .ok g' ∧ p.Exactly x y i j g g')
        ∧ p.during (i + 1) 0 = p.during i p.columns.items.length)
      ∧ p.fill = p.during p.rows.items.length 0
      ∧ ∃ g w, p.fill = .ok g ∧ p.corner g = .ok w ∧ 0 ≤ w.toInt
        ∧ w.toInt ≤ (min p.rows.size p.columns.size : Nat)
        ∧ (Problem.count w : Int) = w.toInt ∧ p.length = .ok (Problem.count w) := by
  obtain ⟨hf, _⟩ := Grid.of_allocate h
  refine ⟨?_, ?_, ?_, ?_, ?_, Problem.exists_corner hf⟩
  · intro r hr c hc
    exact Grid.Fits.lt hf (by omega) (by omega)
  · rw [Problem.during_zero]
    unfold Problem.afterRows
    rw [h]
    rfl
  · intro i hi j hj
    exact Problem.exists_bounded hf hi hj
  · intro i x hx
    have hi := (List.getElem?_eq_some_iff.1 hx).1
    refine ⟨?_, ?_⟩
    · intro j y hy
      exact Problem.exists_exactly hf hx hy
    · rw [Problem.during_zero, Problem.afterRows_succ hi]
  · rw [Problem.during_zero, Problem.fill_eq_afterRows]

/-- The columns have a hole, and the match in the first row is one of a tolerance on one side. -/
theorem fill_exact_hole :
    let p : Problem Agreement.Approximate Agreement.Approximate :=
      ⟨Indexed.ofSlots 2 #[some ⟨1, 1⟩, some ⟨4, 0⟩],
        Indexed.ofSlots 3 #[some ⟨4, 3⟩, some ⟨2, 0⟩, none, some ⟨4, 0⟩], Agreement.near⟩
    Grid.allocate (p.rows.size + 1) (p.columns.size + 1) = .ok (Grid.zeros 3 4)
      ∧ p.rows.items[0]? = some ⟨1, 1⟩ ∧ p.columns.items[1]? = some ⟨2, 0⟩
      ∧ (∃ g g', p.during 0 1 = .ok g ∧ p.during 0 2 = .ok g' ∧ p.Exactly ⟨1, 1⟩ ⟨2, 0⟩ 0 1 g g')
      ∧ (∃ g, p.during 2 1 = .ok g ∧ g.Bounded)
      ∧ ∃ g w, p.fill = .ok g ∧ p.corner g = .ok w ∧ (Problem.count w : Int) = w.toInt := by
  intro p
  have hallocate : Grid.allocate (p.rows.size + 1) (p.columns.size + 1) = .ok (Grid.zeros 3 4) :=
    Grid.allocate_of_fits (by decide) (by decide) (by decide)
  have hx : p.rows.items[0]? = some ⟨1, 1⟩ := by decide
  have hy : p.columns.items[1]? = some ⟨2, 0⟩ := by decide
  obtain ⟨_, _, hbounded, hcells, _, g, w, hfill, hcorner, _, _, hcount, _⟩ := fill_exact hallocate
  obtain ⟨g₁, hduring, _, _, hg₁⟩ := hbounded 2 (by decide) 1 (by decide)
  exact ⟨hallocate, hx, hy, (hcells 0 _ hx).1 1 _ hy, ⟨g₁, hduring, hg₁⟩, g, w, hfill, hcorner,
    hcount⟩

end CommonSubsequence
