/-
  CommonSubsequence.Proofs.Transposition — rows and columns exchanged.

  The recurrence treats rows and columns alike: the common length of a corner is the one of the
  exchanged corner under the flipped verdict.  The loops do not, since they go row by row, and the
  walk does not either, since ties go up.  So the grids of a problem and of the exchanged problem
  are related cell by cell through their common lengths, and not by way of what they select.

  Nothing is asked of the sequences or of the verdict.  Filling stops at the first hole of either
  sequence, and the zeros beyond it change places with the rest.

  Main results:
    * `Verdicts.best_swap`, `Problem.cell_swap` — exchanged corners.
    * `Grid.Holds.mirrors` — grids of exchanged numbers, read by read.
    * `grid_transposed` — grids, engines and lengths of a problem and of the exchanged problem.
-/
import CommonSubsequence.Alignment.Agreement
import CommonSubsequence.Alignment.Strings
import CommonSubsequence.Proofs.Caching
import CommonSubsequence.Proofs.Runs
import CommonSubsequence.Proofs.Stacks

namespace CommonSubsequence

/-! ## §1. Common lengths of exchanged corners. -/

/-- Under the flipped verdict the exchanged corner has the same common length. -/
theorem Verdicts.best_swap {v v' : Verdicts} (h : ∀ i j, v' j i = v i j) (r c : Nat) :
    v'.best c r = v.best r c := by
  fun_induction best v r c with
  | case1 c => rw [best_zero_right]
  | case2 i => rw [best_zero_left]
  | case3 i j hv ih => rw [best_of_match ((h i j).trans hv), ih]
  | case4 i j hv ihu ihl =>
    have hv' : v' j i = false := by
      rw [h i j]
      simpa using hv
    -- what lies above the one cell lies beside the other
    rw [best_of_mismatch hv', ihl, ihu, Nat.max_comm]

namespace Problem

variable {α β : Type} {p : Problem α β} {p' : Problem β α}

/-- The second problem has the sequences of the first one exchanged, and its verdict flipped. -/
structure Swaps (p : Problem α β) (p' : Problem β α) : Prop where
  rows_eq : p'.rows = p.columns
  columns_eq : p'.columns = p.rows
  agree_eq : ∀ x y, p'.agree y x = p.agree x y

/-- Every problem has one with its sequences exchanged and its verdict flipped. -/
theorem swaps_swap (p : Problem α β) : p.Swaps p.swap :=
  ⟨rfl, rfl, fun _ _ => rfl⟩

/-- A symmetric verdict need not be flipped. -/
theorem swaps_of_symmetric {agree : α → α → Bool} (h : ∀ x y, agree x y = agree y x)
    (rows columns : Indexed α) :
    Swaps (⟨rows, columns, agree⟩ : Problem α α) ⟨columns, rows, agree⟩ :=
  ⟨rfl, rfl, fun x y => h y x⟩

namespace Swaps

/-- The verdict on a pair is the one on the exchanged pair. -/
theorem verdicts_eq (h : p.Swaps p') (i j : Nat) : p'.verdicts j i = p.verdicts i j := by
  unfold verdicts
  rw [h.rows_eq, h.columns_eq]
  cases p.rows.get? i with
  | none => cases p.columns.get? j <;> rfl
  | some x =>
    cases p.columns.get? j with
    | none => rfl
    | some y => exact h.agree_eq x y

/-- The finished grids hold the same number in exchanged cells, beyond a hole as in front of it. -/
theorem cell_swap (h : p.Swaps p') (r c : Nat) : p'.cell c r = p.cell r c := by
  unfold cell
  rw [h.rows_eq, h.columns_eq, Verdicts.best_swap h.verdicts_eq]
  by_cases hin : r ≤ p.rows.items.length ∧ c ≤ p.columns.items.length
  · rw [if_pos hin, if_pos hin.symm]
  · rw [if_neg hin, if_neg fun hc => hin hc.symm]

/-- A grid with its sides exchanged takes as much room. -/
theorem fits (h : p.Swaps p') (hf : p.Fits) : p'.Fits := by
  unfold Fits
  rw [h.rows_eq, h.columns_eq]
  exact Grid.Fits.symm hf

end Swaps

end Problem

/-! ## §2. Grids of exchanged numbers. -/

namespace Grid

/-- Seen transposed, the first grid has the shape of the second one, and every read of it, in range
or not, has the same result. -/
structure Mirrors (g g' : Grid) : Prop where
  rowCount : (Engine.layered g [.transposed]).rowCount.run = (Engine.layered g' []).rowCount.run
  columnCount :
    (Engine.layered g [.transposed]).columnCount.run = (Engine.layered g' []).columnCount.run
  read : ∀ r c,
    ((Engine.layered g [.transposed]).read r c).run = ((Engine.layered g' []).read r c).run

variable {g g' : Grid} {rows columns : Nat} {f f' : Nat → Nat → Nat}

/-- **Grids of exchanged numbers mirror each other**, and name each other's shape in their faults.
-/
theorem Holds.mirrors (h : g.Holds rows columns f) (h' : g'.Holds columns rows f')
    (hf : ∀ r c, f' c r = f r c) : g.Mirrors g' := by
  have hrows : g.columns = g'.rows := h.columns_eq.trans h'.rows_eq.symm
  have hcolumns : g.rows = g'.columns := h.rows_eq.trans h'.columns_eq.symm
  have hshape : Cells.Layer.transposed.shape g.shape = g'.shape := Prod.ext hrows hcolumns
  have hshaped : (g.reading : Cells Id).Shaped g.shape := ⟨rfl, rfl⟩
  refine ⟨hrows, hcolumns, ?_⟩
  intro r c
  show ((g.reading : Cells Id).transpose.read r c).run = g'.read r c
  rw [hshaped.read_transpose, hshape]
  by_cases hin : g'.InRange r c
  · rw [if_pos (inRange_iff_inside.1 hin)]
    obtain ⟨hr, hc⟩ := hin
    rw [h'.rows_eq] at hr
    rw [h'.columns_eq] at hc
    rw [h'.read_eq r hr c hc, hf c r]
    exact h.read_eq c hc r hr
  · -- the transposed view names its own shape, which is the shape of the other grid
    rw [if_neg fun hinside => hin (inRange_iff_inside.2 hinside), read_of_not_inRange hin]
    rfl

/-- A grid that mirrors another one is equal to it, once it is transposed. -/
theorem Mirrors.equal (h : g.Mirrors g') :
    Cells.equal (Engine.layered g [.transposed]) (Engine.layered g' []) = true :=
  Cells.equal_of_read h.rowCount h.columnCount h.read

end Grid

/-! ## §3. Tables of exchanged problems. -/

/-- What the tables of a problem and of the exchanged problem have to do with each other. -/
structure Problem.Transposes {α β : Type} (p : Problem α β) (p' : Problem β α) : Prop where
  /-- Seen transposed, the first grid is the second one. -/
  grids : ∃ g g', p.fill = .ok g ∧ p'.fill = .ok g' ∧ g.Mirrors g'
    ∧ Cells.equal (Engine.layered g [.transposed]) (Engine.layered g' []) = true
  /-- Asked for the shape of the one and of the other, fresh engines answer the same. -/
  shape : ∃ rows columns,
    (((Engine.ofProblem p).answer (.grid [.transposed] .shape)).run (.fresh () ())).answer
        = .ok (.cells (.shape rows columns))
      ∧ (((Engine.ofProblem p').answer (.grid [] .shape)).run (.fresh () ())).answer
        = .ok (.cells (.shape rows columns))
  /-- So they do for every read. -/
  read : ∀ r c, ∃ result,
    (((Engine.ofProblem p).answer (.grid [.transposed] (.read r c))).run (.fresh () ())).answer
        = .ok (.cells (.read result))
      ∧ (((Engine.ofProblem p').answer (.grid [] (.read r c))).run (.fresh () ())).answer
        = .ok (.cells (.read result))
  /-- The length is the same, asked of the problems or of fresh engines. -/
  length : ∃ k, p.length = .ok k ∧ p'.length = .ok k
    ∧ ((Engine.ofProblem p).length.run (.fresh () ())).answer = .ok k
    ∧ ((Engine.ofProblem p').length.run (.fresh () ())).answer = .ok k

namespace Problem

variable {α β : Type} {p : Problem α β} {p' : Problem β α}

/-- The finished grids mirror each other. -/
theorem Swaps.mirrors (h : p.Swaps p') {g g' : Grid}
    (hg : g.Holds (p.rows.size + 1) (p.columns.size + 1) p.cell)
    (hg' : g'.Holds (p'.rows.size + 1) (p'.columns.size + 1) p'.cell) : g.Mirrors g' := by
  rw [h.rows_eq, h.columns_eq] at hg'
  exact hg.mirrors hg' h.cell_swap

/-- The length does not depend on which sequence is read along the rows. -/
theorem Swaps.length_eq (h : p.Swaps p') (hf : p.Fits) : p'.length = p.length := by
  obtain ⟨g, hfill, hg⟩ := fill_spec hf
  obtain ⟨g', hfill', hg'⟩ := fill_spec (h.fits hf)
  rw [length_of_corner hfill (corner_of_cell hg), length_of_corner hfill' (corner_of_cell hg'),
    h.rows_eq, h.columns_eq, h.cell_swap]

/-- Through engines as well, the exchanged problem has the transposed grid. -/
theorem Swaps.transposes (h : p.Swaps p') (hf : p.Fits) : p.Transposes p' := by
  obtain ⟨g, hfill, hg⟩ := fill_spec hf
  obtain ⟨g', hfill', hg'⟩ := fill_spec (h.fits hf)
  have hmirrors := h.mirrors hg hg'
  have hfilled : p.Filled g _ := ⟨hfill, corner_of_cell hg, hg.rows_eq, hg.columns_eq⟩
  have hfilled' : p'.Filled g' _ := ⟨hfill', corner_of_cell hg', hg'.rows_eq, hg'.columns_eq⟩
  have hanswer := fun q => congrArg Outcome.answer
    (Engine.run_answer hfilled (Memo.faithful_fresh p g) q)
  have hanswer' := fun q => congrArg Outcome.answer
    (Engine.run_answer hfilled' (Memo.faithful_fresh p' g') q)
  have hlength := length_of_corner hfill (corner_of_cell hg)
  have hlength' := (h.length_eq hf).trans hlength
  constructor
  · exact ⟨g, g', hfill, hfill', hmirrors, hmirrors.equal⟩
  · refine ⟨_, _, hanswer (.grid [.transposed] .shape), ?_⟩
    rw [hanswer' (.grid [] .shape)]
    show Except.ok (Engine.Answer.cells (.shape (Engine.layered g' []).rowCount.run
      (Engine.layered g' []).columnCount.run)) = _
    rw [← hmirrors.rowCount, ← hmirrors.columnCount]
    rfl
  · intro r c
    refine ⟨_, hanswer (.grid [.transposed] (.read r c)), ?_⟩
    rw [hanswer' (.grid [] (.read r c))]
    show Except.ok (Engine.Answer.cells (.read ((Engine.layered g' []).read r c).run)) = _
    rw [← hmirrors.read r c]
    rfl
  · exact ⟨_, hlength, hlength', (Engine.answer_length hf).trans hlength,
      (Engine.answer_length (h.fits hf)).trans hlength'⟩

end Problem

/-- **Exchanging the sequences transposes the grid**, under the flipped verdict, and under the same
verdict if that is symmetric. -/
theorem grid_transposed :
    (∀ {α β : Type} (p : Problem α β), p.Fits → p.Transposes p.swap)
    ∧ ∀ {α : Type} (rows columns : Indexed α) (agree : α → α → Bool),
      (∀ x y, agree x y = agree y x) → Problem.Fits ⟨rows, columns, agree⟩ →
        Problem.Transposes ⟨rows, columns, agree⟩ ⟨columns, rows, agree⟩ := by
  constructor
  · intro α β p hf
    exact p.swaps_swap.transposes hf
  · intro α rows columns agree hagree hf
    exact (Problem.swaps_of_symmetric hagree rows columns).transposes hf

/-- A verdict that is not symmetric over a row sequence with a hole, and equal characters. -/
theorem grid_transposed_hole :
    let p : Problem Agreement.Approximate Agreement.Approximate :=
      ⟨Indexed.ofSlots 3 #[some ⟨1, 1⟩, some ⟨4, 0⟩, none], Indexed.ofList [⟨4, 3⟩, ⟨2, 0⟩],
        Agreement.near⟩
    let a := Indexed.ofString "ABCB"
    let b := Indexed.ofString "BDCAB"
    p.Fits ∧ p.Transposes p.swap ∧ (∀ x y : Char, (x == y) = (y == x))
      ∧ Problem.Fits ⟨a, b, fun x y : Char => x == y⟩
      ∧ Problem.Transposes ⟨a, b, fun x y : Char => x == y⟩ ⟨b, a, fun x y : Char => x == y⟩ := by
  intro p a b
  have hfits : p.Fits := by decide
  have hsymmetric : ∀ x y : Char, (x == y) = (y == x) := fun x y => Bool.beq_comm
  have hstrings : Problem.Fits ⟨a, b, fun x y : Char => x == y⟩ := by decide
  exact ⟨hfits, grid_transposed.1 p hfits, hsymmetric, hstrings,
    grid_transposed.2 a b (fun x y => x == y) hsymmetric hstrings⟩

end CommonSubsequence
