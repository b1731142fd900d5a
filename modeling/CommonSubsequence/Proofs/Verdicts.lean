/-
  CommonSubsequence.Proofs.Verdicts — common lengths and walks as functions of verdicts alone.

  Neither the grid nor the walk looks at an element except to ask whether it matches another one.
  A table of verdicts therefore determines the common length of every corner (`Verdicts.best`)
  and the moves of the walk from every cell (`Verdicts.trail`), without a grid, a cell or a fault.
  Both recursions are the recurrence of the table and the rule of the walk; that the program
  computes exactly these values is shown where it fills and walks.

  Main results:
    * `Verdicts.best_le` — a common length exceeds neither side of its corner.
    * `Verdicts.best_congr`, `Verdicts.trail_congr` — both depend on the verdicts inside the
      corner only.
    * `Verdicts.length_pairs` — a walk records as many pairs as the common length counts.
-/
import CommonSubsequence.Alignment.Walk

namespace CommonSubsequence

/-! ## §1. Tables of verdicts. -/

/-- Which row positions match which column positions. -/
abbrev Verdicts : Type := Nat → Nat → Bool

namespace Problem

variable {α β : Type} {p : Problem α β}

/-- The verdicts of a problem; a position that cannot be read matches nothing. -/
def verdicts (p : Problem α β) : Verdicts := fun i j =>
  match p.rows.get? i, p.columns.get? j with
  | some x, some y => p.agree x y
  | _, _ => false

/-- Between elements that can be read the verdict of the problem decides. -/
theorem verdicts_of_get? {i j : Nat} {x : α} {y : β} (hx : p.rows.get? i = some x)
    (hy : p.columns.get? j = some y) : p.verdicts i j = p.agree x y := by
  unfold verdicts
  rw [hx, hy]

/-- A pair matches exactly if the verdict on its two positions is positive. -/
theorem matches_iff {q : Pair} : p.Matches q ↔ p.verdicts q.row q.column = true := by
  unfold Matches verdicts
  cases hx : p.rows.get? q.row with
  | none => simp
  | some x =>
    cases hy : p.columns.get? q.column with
    | none => simp
    | some y => simp

end Problem

namespace Verdicts

variable {v w : Verdicts}

/-! ## §2. Common lengths. -/

/-- The common length of the first `r` rows and the first `c` columns. -/
def best (v : Verdicts) : (r c : Nat) → Nat
  | 0, _ => 0
  | _ + 1, 0 => 0
  | i + 1, j + 1 =>
    if v i j then best v i j + 1 else max (best v i (j + 1)) (best v (i + 1) j)
termination_by r c => r + c

/-- Without rows there is nothing in common. -/
@[simp] theorem best_zero_left (v : Verdicts) (c : Nat) : v.best 0 c = 0 := by
  rw [best]

@[simp] theorem best_zero_right (v : Verdicts) (r : Nat) : v.best r 0 = 0 := by
  cases r <;> rw [best]

/-- A match adds one to what the corner in front of it has in common. -/
theorem best_of_match {i j : Nat} (h : v i j = true) :
    v.best (i + 1) (j + 1) = v.best i j + 1 := by
  rw [best, if_pos h]

/-- Without a match the last row or the last column does not count. -/
theorem best_of_mismatch {i j : Nat} (h : v i j = false) :
    v.best (i + 1) (j + 1) = max (v.best i (j + 1)) (v.best (i + 1) j) := by
  rw [best, if_neg (by simp [h])]

/-- A common length exceeds neither the number of rows nor the number of columns. -/
theorem best_le (v : Verdicts) (r c : Nat) : v.best r c ≤ r ∧ v.best r c ≤ c := by
  fun_induction best v r c with
  | case1 c => omega
  | case2 i => omega
  | case3 i j _ ih => omega
  | case4 i j _ ihu ihl => omega

/-- A common length depends on the verdicts inside its corner only. -/
theorem best_congr {r c : Nat} (h : ∀ i < r, ∀ j < c, v i j = w i j) :
    v.best r c = w.best r c := by
  fun_induction best v r c with
  | case1 c => rw [best_zero_left]
  | case2 i => rw [best_zero_right]
  | case3 i j hv ih =>
    have hw : w i j = true := by rw [← h i (by omega) j (by omega)]; exact hv
    rw [best_of_match hw, ih fun i' hi j' hj => h i' (by omega) j' (by omega)]
  | case4 i j hv ihu ihl =>
    have hw : w i j = false := by
      rw [← h i (by omega) j (by omega)]
      simpa using hv
    rw [best_of_mismatch hw, ihu fun i' hi j' hj => h i' (by omega) j' hj,
      ihl fun i' hi j' hj => h i' hi j' (by omega)]

/-! ## §3. Walks. -/

/-- The walk from a cell to the edge, with common lengths in place of cells. -/
def trail (v : Verdicts) : (r c : Nat) → Trail
  | 0, _ => .done
  | _ + 1, 0 => .done
  | i + 1, j + 1 =>
    if v i j then (trail v i j).after (.matched ⟨i, j⟩)
    else if v.best i (j + 1) < v.best (i + 1) j then
      (trail v (i + 1) j).after (.left (i + 1) (j + 1))
    else (trail v i (j + 1)).after (.up (i + 1) (j + 1))
termination_by r c => r + c

/-- On the top edge the walk is over. -/
theorem trail_zero_left (v : Verdicts) (c : Nat) : v.trail 0 c = .done := by
  rw [trail]

theorem trail_zero_right (v : Verdicts) (r : Nat) : v.trail r 0 = .done := by
  cases r <;> rw [trail]

/-- A match is recorded, and the walk goes on along the diagonal. -/
theorem trail_of_match {i j : Nat} (h : v i j = true) :
    v.trail (i + 1) (j + 1) = (v.trail i j).after (.matched ⟨i, j⟩) := by
  rw [trail, if_pos h]

/-- The walk goes left if that has more in common. -/
theorem trail_of_left {i j : Nat} (h : v i j = false)
    (hlt : v.best i (j + 1) < v.best (i + 1) j) :
    v.trail (i + 1) (j + 1) = (v.trail (i + 1) j).after (.left (i + 1) (j + 1)) := by
  rw [trail, if_neg (by simp [h]), if_pos hlt]

/-- The walk goes up otherwise, and so it does on a tie. -/
theorem trail_of_up {i j : Nat} (h : v i j = false)
    (hle : v.best (i + 1) j ≤ v.best i (j + 1)) :
    v.trail (i + 1) (j + 1) = (v.trail i (j + 1)).after (.up (i + 1) (j + 1)) := by
  rw [trail, if_neg (by simp [h]), if_neg (by omega)]

/-- Induction along the walk: on the edge, or from the cell that the next move leads to. -/
@[elab_as_elim]
theorem walk_induction (v : Verdicts) {motive : Nat → Nat → Prop} (top : ∀ c, motive 0 c)
    (side : ∀ r, motive r 0)
    (matched : ∀ i j, v i j = true → motive i j → motive (i + 1) (j + 1))
    (left : ∀ i j, v i j = false → v.best i (j + 1) < v.best (i + 1) j →
      motive (i + 1) j → motive (i + 1) (j + 1))
    (up : ∀ i j, v i j = false → v.best (i + 1) j ≤ v.best i (j + 1) →
      motive i (j + 1) → motive (i + 1) (j + 1)) (r c : Nat) : motive r c := by
  fun_induction trail v r c with
  | case1 c => exact top c
  | case2 i => exact side (i + 1)
  | case3 i j h ih => exact matched i j h ih
  | case4 i j h hlt ih => exact left i j (by simpa using h) hlt ih
  | case5 i j h hle ih => exact up i j (by simpa using h) (by omega) ih

/-- A walk depends on the verdicts inside its corner only. -/
theorem trail_congr {r c : Nat} (h : ∀ i < r, ∀ j < c, v i j = w i j) :
    v.trail r c = w.trail r c := by
  induction r, c using walk_induction v with
  | top c => rw [trail_zero_left, trail_zero_left]
  | side r => rw [trail_zero_right, trail_zero_right]
  | matched i j hv ih =>
    have hw : w i j = true := by rw [← h i (by omega) j (by omega)]; exact hv
    rw [trail_of_match hv, trail_of_match hw, ih fun i' hi j' hj => h i' (by omega) j' (by omega)]
  | left i j hv hlt ih =>
    -- the turn compares two common lengths, which are the same under both tables
    have hw : w i j = false := by rw [← h i (by omega) j (by omega)]; exact hv
    have hu := best_congr (r := i) (c := j + 1) fun i' hi j' hj => h i' (by omega) j' hj
    have hl := best_congr (r := i + 1) (c := j) fun i' hi j' hj => h i' hi j' (by omega)
    rw [trail_of_left hv hlt, trail_of_left hw (by omega),
      ih fun i' hi j' hj => h i' hi j' (by omega)]
  | up i j hv hle ih =>
    have hw : w i j = false := by rw [← h i (by omega) j (by omega)]; exact hv
    have hu := best_congr (r := i) (c := j + 1) fun i' hi j' hj => h i' (by omega) j' hj
    have hl := best_congr (r := i + 1) (c := j) fun i' hi j' hj => h i' hi j' (by omega)
    rw [trail_of_up hv hle, trail_of_up hw (by omega),
      ih fun i' hi j' hj => h i' (by omega) j' hj]

/-- Over verdicts no walk is cut short. -/
theorem halt_trail (v : Verdicts) (r c : Nat) : (v.trail r c).halt = none := by
  induction r, c using walk_induction v with
  | top c => rw [trail_zero_left]; rfl
  | side r => rw [trail_zero_right]; rfl
  | matched i j h ih => rw [trail_of_match h]; exact ih
  | left i j h hlt ih => rw [trail_of_left h hlt]; exact ih
  | up i j h hle ih => rw [trail_of_up h hle]; exact ih

/-! ## §4. Recorded pairs. -/

/-- The pairs that the walk from a cell records, earliest first. -/
def pairs (v : Verdicts) (r c : Nat) : List Pair :=
  (v.trail r c).pairs

/-- On the top edge nothing is recorded any more. -/
@[simp] theorem pairs_zero_left (v : Verdicts) (c : Nat) : v.pairs 0 c = [] := by
  unfold pairs
  rw [trail_zero_left]
  rfl

@[simp] theorem pairs_zero_right (v : Verdicts) (r : Nat) : v.pairs r 0 = [] := by
  unfold pairs
  rw [trail_zero_right]
  rfl

/-- A match comes behind all pairs that are recorded later on the walk. -/
theorem pairs_of_match {i j : Nat} (h : v i j = true) :
    v.pairs (i + 1) (j + 1) = v.pairs i j ++ [⟨i, j⟩] := by
  unfold pairs
  rw [trail_of_match h]
  exact List.reverse_cons

/-- A move to the left records no pair. -/
theorem pairs_of_left {i j : Nat} (h : v i j = false)
    (hlt : v.best i (j + 1) < v.best (i + 1) j) :
    v.pairs (i + 1) (j + 1) = v.pairs (i + 1) j := by
  unfold pairs
  rw [trail_of_left h hlt]
  rfl

theorem pairs_of_up {i j : Nat} (h : v i j = false)
    (hle : v.best (i + 1) j ≤ v.best i (j + 1)) :
    v.pairs (i + 1) (j + 1) = v.pairs i (j + 1) := by
  unfold pairs
  rw [trail_of_up h hle]
  rfl

/-- The recorded pairs depend on the verdicts inside the corner only. -/
theorem pairs_congr {r c : Nat} (h : ∀ i < r, ∀ j < c, v i j = w i j) :
    v.pairs r c = w.pairs r c := by
  unfold pairs
  rw [trail_congr h]

/-- A walk records as many pairs as the common length of its corner counts. -/
theorem length_pairs (v : Verdicts) (r c : Nat) : (v.pairs r c).length = v.best r c := by
  induction r, c using walk_induction v with
  | top c => simp
  | side r => simp
  | matched i j h ih =>
    rw [pairs_of_match h, best_of_match h, List.length_append, ih]
    rfl
  | left i j h hlt ih =>
    rw [pairs_of_left h hlt, best_of_mismatch h, ih]
    omega
  | up i j h hle ih =>
    rw [pairs_of_up h hle, best_of_mismatch h, ih]
    omega

/-- Every recorded pair lies inside the corner and matches. -/
theorem mem_pairs {r c : Nat} {q : Pair} (hq : q ∈ v.pairs r c) :
    q.row < r ∧ q.column < c ∧ v q.row q.column = true := by
  induction r, c using walk_induction v with
  | top c => simp at hq
  | side r => simp at hq
  | matched i j h ih =>
    -- the new pair sits in the last row and column of the corner, the others in front of it
    rw [pairs_of_match h, List.mem_append, List.mem_singleton] at hq
    rcases hq with hq | rfl
    · obtain ⟨hr, hc, hv⟩ := ih hq
      exact ⟨by omega, by omega, hv⟩
    · exact ⟨Nat.lt_succ_self i, Nat.lt_succ_self j, h⟩
  | left i j h hlt ih =>
    rw [pairs_of_left h hlt] at hq
    obtain ⟨hr, hc, hv⟩ := ih hq
    exact ⟨hr, by omega, hv⟩
  | up i j h hle ih =>
    rw [pairs_of_up h hle] at hq
    obtain ⟨hr, hc, hv⟩ := ih hq
    exact ⟨by omega, hc, hv⟩

/-- The recorded pairs ascend: a match is added behind pairs of its own corner. -/
theorem ascending_pairs (v : Verdicts) (r c : Nat) : Pair.Ascending (v.pairs r c) := by
  induction r, c using walk_induction v with
  | top c => simp [Pair.Ascending]
  | side r => simp [Pair.Ascending]
  | matched i j h ih =>
    rw [pairs_of_match h]
    apply Pair.Ascending.snoc ih
    intro q hq
    obtain ⟨hr, hc, _⟩ := mem_pairs hq
    exact ⟨hr, hc⟩
  | left i j h hlt ih =>
    rw [pairs_of_left h hlt]
    exact ih
  | up i j h hle ih =>
    rw [pairs_of_up h hle]
    exact ih

end Verdicts

end CommonSubsequence
