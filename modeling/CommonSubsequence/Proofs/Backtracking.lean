/-
  CommonSubsequence.Proofs.Backtracking — the walk through the grid and the recurrence agree.

  The walk reads the elements again and compares neighbouring cells; the grid was filled from the
  same elements.  Over the finished grid of a lawful problem every turn is therefore the turn that
  the verdicts and the common lengths prescribe, and the whole walk is the one over verdicts: it
  reaches the edge and records a chain of the length that the corner of the grid counts.

  Main results:
    * `Problem.turn_of_match`, `Problem.turn_of_mismatch` — one turn, from the cells it reads.
    * `Problem.Lawful.walk_eq` — the whole walk.
    * `Problem.Lawful.path_eq` — the path of a lawful problem.
-/
import CommonSubsequence.Proofs.Optimum

namespace CommonSubsequence

namespace Problem

variable {α β : Type} {p : Problem α β} {g : Grid} {i j : Nat}

/-! ## §1. One turn. -/

/-- A match sends the walk along the diagonal, whatever the cells hold. -/
theorem turn_of_match {x : α} {y : β} (hx : p.rows.get? i = some x)
    (hy : p.columns.get? j = some y) (h : p.agree x y = true) :
    p.turn g i j = .ok .diagonal := by
  unfold turn
  rw [Indexed.read_eq_ok_iff.2 hx, Indexed.read_eq_ok_iff.2 hy]
  show (if p.agree x y = true then _ else _) = _
  rw [if_pos h]
  rfl

/-- Without a match the walk goes where the greater neighbour is, and up if none is greater. -/
theorem turn_of_mismatch {x : α} {y : β} {above beside : Int32} (hx : p.rows.get? i = some x)
    (hy : p.columns.get? j = some y) (h : p.agree x y = false)
    (habove : g.read i (j + 1) = .ok above) (hbeside : g.read (i + 1) j = .ok beside) :
    p.turn g i j = .ok (if above < beside then .left else .up) := by
  unfold turn
  rw [Indexed.read_eq_ok_iff.2 hx, Indexed.read_eq_ok_iff.2 hy, habove, hbeside]
  show (if p.agree x y = true then _ else _) = _
  rw [if_neg (by simp [h])]
  rfl

/-! ## §2. The whole walk. -/

/-- Inside a lawful problem both elements of a pair can be read. -/
theorem Lawful.exists_get? (hl : p.Lawful) (hi : i < p.rows.size) (hj : j < p.columns.size) :
    ∃ x y, p.rows.get? i = some x ∧ p.columns.get? j = some y := by
  obtain ⟨x, hx⟩ := Option.isSome_iff_exists.1 ((hl.1 i).2 hi)
  obtain ⟨y, hy⟩ := Option.isSome_iff_exists.1 ((hl.2 j).2 hj)
  exact ⟨x, y, hx, hy⟩

/-- On a match a lawful problem turns along the diagonal. -/
theorem Lawful.turn_of_true (hl : p.Lawful) (hi : i < p.rows.size) (hj : j < p.columns.size)
    (hv : p.verdicts i j = true) : p.turn g i j = .ok .diagonal := by
  obtain ⟨x, y, hx, hy⟩ := hl.exists_get? hi hj
  rw [verdicts_of_get? hx hy] at hv
  exact turn_of_match hx hy hv

/-- A mismatch in a finished grid is decided by the common lengths. -/
theorem Lawful.turn_of_false (hl : p.Lawful) (hf : p.Fits)
    (hg : g.Holds (p.rows.size + 1) (p.columns.size + 1) p.verdicts.best)
    (hi : i < p.rows.size) (hj : j < p.columns.size) (hv : p.verdicts i j = false) :
    p.turn g i j =
      .ok (if p.verdicts.best i (j + 1) < p.verdicts.best (i + 1) j then .left else .up) := by
  obtain ⟨x, y, hx, hy⟩ := hl.exists_get? hi hj
  rw [verdicts_of_get? hx hy] at hv
  rw [turn_of_mismatch hx hy hv (hg.read_eq i (by omega) (j + 1) (by omega))
    (hg.read_eq (i + 1) (by omega) j (by omega))]
  -- small cells compare as the numbers they hold
  have hlt := Int32.ofNat_lt_iff_lt (best_lt_of_fits hf (r := i) (c := j + 1) (by omega) (by omega))
    (best_lt_of_fits hf (r := i + 1) (c := j) (by omega) (by omega))
  by_cases h : p.verdicts.best i (j + 1) < p.verdicts.best (i + 1) j
  · rw [if_pos h, if_pos (hlt.2 h)]
  · rw [if_neg h, if_neg fun hc => h (hlt.1 hc)]

/-- **The walk through the finished grid is the walk over the verdicts.** -/
theorem Lawful.walk_eq (hl : p.Lawful) (hf : p.Fits)
    (hg : g.Holds (p.rows.size + 1) (p.columns.size + 1) p.verdicts.best) {r c : Nat}
    (hr : r ≤ p.rows.size) (hc : c ≤ p.columns.size) :
    p.walk g r c = p.verdicts.trail r c := by
  induction r, c using Verdicts.walk_induction p.verdicts with
  | top c => rw [walk_zero_left, Verdicts.trail_zero_left]
  | side r => rw [walk_zero_right, Verdicts.trail_zero_right]
  | matched i j hv ih =>
    rw [walk, hl.turn_of_true (by omega) (by omega) hv, Verdicts.trail_of_match hv,
      ← ih (by omega) (by omega)]
  | left i j hv hlt ih =>
    rw [walk, hl.turn_of_false hf hg (by omega) (by omega) hv, if_pos hlt,
      Verdicts.trail_of_left hv hlt, ← ih hr (by omega)]
  | up i j hv hle ih =>
    rw [walk, hl.turn_of_false hf hg (by omega) (by omega) hv, if_neg (by omega),
      Verdicts.trail_of_up hv hle, ← ih (by omega) hc]

/-! ## §3. The path. -/

/-- The walk from the bottom right cell is the walk over the verdicts. -/
theorem Lawful.backtrack_eq (hl : p.Lawful) (hf : p.Fits)
    (hg : g.Holds (p.rows.size + 1) (p.columns.size + 1) p.verdicts.best) :
    p.backtrack g = p.verdicts.trail p.rows.size p.columns.size :=
  hl.walk_eq hf hg (Nat.le_refl _) (Nat.le_refl _)

/-- A trail over verdicts ends on the edge, so its pairs are a path. -/
theorem path_trail (v : Verdicts) (r c : Nat) : (v.trail r c).path = .ok ⟨v.pairs r c⟩ :=
  Trail.path_of_halt_none (v.halt_trail r c)

/-- The path of a lawful problem is the list of pairs that the walk over its verdicts records. -/
theorem Lawful.path_eq (hl : p.Lawful) (hf : p.Fits) :
    p.path = .ok ⟨p.verdicts.pairs p.rows.size p.columns.size⟩ := by
  obtain ⟨g, hfill, hg⟩ := hl.fill_spec hf
  unfold path
  rw [hfill]
  show (p.backtrack g).path = _
  rw [hl.backtrack_eq hf hg, path_trail]

end Problem

end CommonSubsequence
