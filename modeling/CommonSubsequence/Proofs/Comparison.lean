/-
  CommonSubsequence.Proofs.Comparison — grids that read alike.

  Two grids are compared by their shapes and by the results of all reads inside of them
  (`Cells.Agree`).  A fault that a grid answers with inside the shape it declares counts like a
  cell; what it answers outside counts for nothing, and if an axis is empty nothing else counts
  either.

  A read inside the shape of a stack of layers is handed down to one inside the shape of the grid
  at the bottom.  So grids that agree do so behind the same layers, and a stack that exchanges rows
  and columns an even number of times agrees with the grid at its bottom.  A stack upside down
  makes the number even, which takes agreement behind layers back to the grids themselves.

  Main results:
    * `Cells.equal_iff` — what the comparison finds out.
    * `Cells.agree_under_of_even`, `Cells.agree_under_iff` — stacks of layers.
    * `Grid.agree_reading_iff` — grids that are values.
    * `comparison_congruence` — grids of any kind.
-/
import CommonSubsequence.Proofs.Alike
import CommonSubsequence.Proofs.Viewing
import CommonSubsequence.Proofs.Writing

namespace CommonSubsequence

/-! ## §1. Agreement. -/

namespace Cells

variable {a b c : Cells Id}

/-- Rows and columns of a grid that is no work to read. -/
def shape (a : Cells Id) : Nat × Nat :=
  (a.rowCount.run, a.columnCount.run)

/-- The grids have one shape, and every read inside of it has one result. -/
structure Agree (a b : Cells Id) : Prop where
  shape_eq : a.shape = b.shape
  read_eq : ∀ row column, inside a.shape row column = true → a.read row column = b.read row column

theorem Agree.refl (a : Cells Id) : a.Agree a :=
  ⟨rfl, fun _ _ _ => rfl⟩

theorem Agree.symm (h : a.Agree b) : b.Agree a := by
  refine ⟨h.shape_eq.symm, ?_⟩
  intro row column hin
  rw [← h.shape_eq] at hin
  exact (h.read_eq row column hin).symm

theorem Agree.trans (h : a.Agree b) (h' : b.Agree c) : a.Agree c := by
  refine ⟨h.shape_eq.trans h'.shape_eq, ?_⟩
  intro row column hin
  have hin' := hin
  rw [h.shape_eq] at hin'
  exact (h.read_eq row column hin).trans (h'.read_eq row column hin')

/-- **The comparison finds out whether the grids agree.** -/
theorem equal_iff : equal a b = true ↔ a.Agree b := by
  have hcells : (allBelow a.rowCount.run fun r => allBelow a.columnCount.run fun k =>
      alike (a.read r k).run (b.read r k).run) = true
        ↔ ∀ r < a.rowCount.run, ∀ k < a.columnCount.run, (a.read r k).run = (b.read r k).run := by
    simp only [allBelow_iff, alike_iff]
  unfold equal
  dsimp only
  rw [Bool.and_eq_true, Bool.and_eq_true, Bool.or_eq_true, hcells]
  simp only [beq_iff_eq]
  constructor
  · intro heq
    obtain ⟨⟨hrows, hcolumns⟩, hread⟩ := heq
    refine ⟨Prod.ext hrows hcolumns, ?_⟩
    intro r k hin
    obtain ⟨hr, hk⟩ := inside_iff.1 hin
    rcases hread with hempty | hread
    · -- without columns there is no read inside the shape
      exact absurd hk (by rw [show a.shape.2 = 0 from hempty]; exact Nat.not_lt_zero k)
    · exact hread r hr k hk
  · intro h
    refine ⟨Prod.ext_iff.1 h.shape_eq, Or.inr ?_⟩
    intro r hr k hk
    exact h.read_eq r k (inside_iff.2 ⟨hr, hk⟩)

/-! ## §2. Layers. -/

/-- Two stacks, the second one around the first one, are one stack. -/
theorem under_append (v : Cells Id) (ls ls' : List Layer) :
    v.under (ls ++ ls') = (v.under ls).under ls' :=
  List.foldl_append

theorem shaped_shape (a : Cells Id) : a.Shaped a.shape :=
  ⟨rfl, rfl⟩

/-- Behind layers a grid has the shape that the layers make of its own. -/
theorem shape_under (a : Cells Id) (layers : List Layer) :
    (a.under layers).shape = shapeUnder layers a.shape := by
  have h := (shaped_shape a).under layers
  exact Prod.ext h.rowCount h.columnCount

/-- Behind the same layers grids that agree still do. -/
theorem Agree.under (h : a.Agree b) (layers : List Layer) :
    (a.under layers).Agree (b.under layers) := by
  refine ⟨by rw [shape_under, shape_under, h.shape_eq], ?_⟩
  intro row column hin
  rw [shape_under] at hin
  have hin' := hin
  rw [h.shape_eq] at hin'
  rw [(shaped_shape a).read_under hin, (shaped_shape b).read_under hin']
  exact h.read_eq _ _ ((inside_cellUnder layers a.shape (row, column)).trans hin)

/-- Rows and columns exchanged an even number of times are where they were. -/
theorem agree_under_of_even {layers : List Layer} (h : ¬ Odd (layers.count .transposed))
    (a : Cells Id) : (a.under layers).Agree a := by
  have hshape : shapeUnder layers a.shape = a.shape := by
    rw [shapeUnder_eq_iterate, iterate_swap, if_neg h]
  refine ⟨(shape_under a layers).trans hshape, ?_⟩
  intro row column hin
  rw [shape_under] at hin
  rw [(shaped_shape a).read_under hin, cellUnder_eq_iterate, iterate_swap, if_neg h]

/-- **The same layers around both grids make no difference.** -/
theorem agree_under_iff {layers : List Layer} :
    (a.under layers).Agree (b.under layers) ↔ a.Agree b := by
  constructor
  · intro h
    have heven : ¬ Odd ((layers ++ layers.reverse).count .transposed) := by
      rw [List.count_append, List.count_reverse, Nat.not_odd_iff_even]
      exact Even.add_self _
    -- behind the stack upside down both are back where they were
    have hback := h.under layers.reverse
    rw [← under_append, ← under_append] at hback
    exact (agree_under_of_even heven a).symm.trans (hback.trans (agree_under_of_even heven b))
  · intro h
    exact h.under layers

/-- The comparison does not see layers that go around both grids. -/
theorem equal_under (a b : Cells Id) (layers : List Layer) :
    equal (a.under layers) (b.under layers) = equal a b := by
  rw [Bool.eq_iff_iff, equal_iff, equal_iff]
  exact agree_under_iff

end Cells

/-! ## §3. Grids that are values. -/

namespace Grid

variable {g g' : Grid}

/-- A grid is its shape and its cells. -/
theorem eq_iff_read : g = g' ↔ g.rows = g'.rows ∧ g.columns = g'.columns
    ∧ ∀ r c, g.InRange r c → g.read r c = g'.read r c := by
  constructor
  · intro h
    subst h
    exact ⟨rfl, rfl, fun _ _ _ => rfl⟩
  · intro h
    obtain ⟨hrows, hcolumns, hread⟩ := h
    exact ext_read hrows hcolumns hread

/-- Grids that are values agree only if they are the same. -/
theorem agree_reading_iff : (g.reading : Cells Id).Agree g'.reading ↔ g = g' := by
  rw [eq_iff_read]
  constructor
  · intro h
    obtain ⟨hrows, hcolumns⟩ := Prod.ext_iff.1 h.shape_eq
    refine ⟨hrows, hcolumns, ?_⟩
    intro r c hin
    exact h.read_eq r c (inRange_iff_inside.1 hin)
  · intro h
    obtain ⟨hrows, hcolumns, hread⟩ := h
    refine ⟨Prod.ext hrows hcolumns, ?_⟩
    intro r c hin
    exact hread r c (inRange_iff_inside.2 hin)

/-- Between grids that are values the comparison is equality. -/
theorem equal_reading (g g' : Grid) :
    Cells.equal g.reading g'.reading = (g == g') := by
  rw [Bool.eq_iff_iff, Cells.equal_iff, agree_reading_iff, beq_iff_eq]

end Grid

/-! ## §4. Grids of any kind. -/

/-- **The comparison of grids is a congruence.**  Over grids of any kind, such as answer faults
inside their shapes among them, it is an equivalence; exchanging rows and columns of both grids, or
any layers around both, make no difference to it; and a grid transposed twice is equal to the grid.
Grids that are values, and so all that runs of writes lead to, are equal by it exactly if they are
the same grid, which is to say that their shapes and cells are. -/
theorem comparison_congruence :
    (Equivalence fun a b : Cells Id => Cells.equal a b = true)
    ∧ (∀ a b : Cells Id, Cells.equal a.transpose b.transpose = Cells.equal a b)
    ∧ (∀ a : Cells Id, Cells.equal a.transpose.transpose a = true)
    ∧ (∀ (a b : Cells Id) (layers : List Cells.Layer),
      Cells.equal (a.under layers) (b.under layers) = Cells.equal a b)
    ∧ ∀ g g' : Grid, Cells.equal g.reading g'.reading = (g == g')
      ∧ ((g == g') = true ↔ g.rows = g'.rows ∧ g.columns = g'.columns
        ∧ ∀ r c, g.InRange r c → g.read r c = g'.read r c) := by
  refine ⟨⟨?_, ?_, ?_⟩, ?_, ?_, Cells.equal_under, ?_⟩
  · intro a
    exact Cells.equal_iff.2 (.refl a)
  · intro a b h
    exact Cells.equal_iff.2 (Cells.equal_iff.1 h).symm
  · intro a b c h h'
    exact Cells.equal_iff.2 ((Cells.equal_iff.1 h).trans (Cells.equal_iff.1 h'))
  · intro a b
    exact Cells.equal_under a b [.transposed]
  · intro a
    have heven : ¬ Odd ([Cells.Layer.transposed, .transposed].count .transposed) := by decide
    exact Cells.equal_iff.2 (Cells.agree_under_of_even heven a)
  · intro g g'
    refine ⟨Grid.equal_reading g g', ?_⟩
    rw [beq_iff_eq]
    exact Grid.eq_iff_read

/-- Two grids that miss the same slots inside the shape they declare, though they are stored
differently, and two runs of writes that leave the same cells. -/
theorem comparison_congruence_vacant :
    let a : Cells Id := .ofSlots 2 2 #[#[some 1], #[some 3, none]]
    let b : Cells Id := .ofSlots 2 2 #[#[some 1, none, some 8], #[some 3], #[some 9]]
    let leave := fun ws => ((Write.performAll ws Grid.stored).run (Grid.zeros 2 3)).2
    let g := leave [⟨[], 1, 2, 7⟩]
    let g' := leave [⟨[], 1, 2, 5⟩, ⟨[.transposed], 2, 1, 7⟩, ⟨[.shared], 0, 0, 4⟩]
    (a.read 0 1).run = .error .vacant ∧ Cells.equal a b = true ∧ Cells.equal b a = true
      ∧ Cells.equal a.transpose b.transpose = true ∧ Cells.equal a.transpose.transpose b = true
      ∧ Cells.equal g.reading g'.reading = true ∧ g.read 1 2 = g'.read 1 2 := by
  intro a b leave g g'
  obtain ⟨hequivalence, htranspose, htwice, _, hvalues⟩ := comparison_congruence
  have hab : Cells.equal a b = true := by decide
  have hgg : (g == g') = true := by decide
  obtain ⟨_, _, hread⟩ := (hvalues g g').2.1 hgg
  exact ⟨rfl, hab, hequivalence.symm hab, (htranspose a b).trans hab,
    hequivalence.trans (htwice a) hab, (hvalues g g').1.trans hgg, hread 1 2 (by decide)⟩

end CommonSubsequence
