/-
  CommonSubsequence.Proofs.Positions — which pairs the walk records.

  The walk goes from cell to cell, but where it records its next pair can be said without the cells
  in between.  From a cell `(r, c)` it goes up its column as long as that costs nothing, so no
  further than to the least row whose cell in the column holds as much (`top`).  A match on the way
  up is recorded at once.  If one lies on the way then the last row in front of `top` is one, since
  a match at a lower row that `top` had no part in would be worth one more.  Otherwise the walk
  turns left at `top` and stays in that row up to the last match of it.

  Main results:
    * `Verdicts.best_mono_left`, `Verdicts.best_mono_right` — common lengths along an axis.
    * `Verdicts.pairs_of_up_run`, `Verdicts.pairs_of_left_run` — runs of moves without a match.
    * `Verdicts.exists_lands` — the pair that a walk records first.
    * `Verdicts.lands_of_getElem?` — every pair, from the one behind it.
    * `walk_positions` — every pair of a path, from the grid and the verdict.
-/
import CommonSubsequence.Proofs.Backtracking
import Mathlib.Data.Nat.SuccPred
import Mathlib.Order.Nat
import Mathlib.Order.SuccPred.Archimedean

namespace CommonSubsequence

namespace Verdicts

variable {v : Verdicts} {r r' c c' i j k : Nat}

/-! ## §1. Common lengths along an axis. -/

/-- One more row or one more column adds at most one to the common length, and takes nothing. -/
theorem best_steps (v : Verdicts) (r c : Nat) :
    (v.best r c ≤ v.best (r + 1) c ∧ v.best (r + 1) c ≤ v.best r c + 1)
      ∧ v.best r c ≤ v.best r (c + 1) ∧ v.best r (c + 1) ≤ v.best r c + 1 := by
  induction r generalizing c with
  | zero =>
    have hrow := (v.best_le (0 + 1) c).1
    rw [best_zero_left, best_zero_left]
    omega
  | succ i ihr =>
    induction c with
    | zero =>
      have hcolumn := (v.best_le (i + 1) (0 + 1)).2
      rw [best_zero_right, best_zero_right]
      omega
    | succ j ihc =>
      obtain ⟨⟨hu, hu'⟩, hl, hl'⟩ := ihc
      obtain ⟨⟨hd, hd'⟩, ha, ha'⟩ := ihr (j + 1)
      constructor
      · cases hv : v (i + 1) j with
        | true =>
          rw [best_of_match (i := i + 1) hv]
          omega
        | false =>
          rw [best_of_mismatch (i := i + 1) hv]
          omega
      · cases hv : v i (j + 1) with
        | true =>
          rw [best_of_match (j := j + 1) hv]
          omega
        | false =>
          rw [best_of_mismatch (j := j + 1) hv]
          omega

/-- More rows do not make a common length less. -/
theorem best_mono_left (v : Verdicts) (c : Nat) (h : r ≤ r') : v.best r c ≤ v.best r' c :=
  monotone_nat_of_le_succ (fun i => (v.best_steps i c).1.1) h

theorem best_mono_right (v : Verdicts) (r : Nat) (h : c ≤ c') : v.best r c ≤ v.best r c' :=
  monotone_nat_of_le_succ (fun j => (v.best_steps r j).2.1) h

/-- A row that matches none of the columns from `c` on adds nothing behind them. -/
theorem best_le_of_no_match (h : c ≤ c') (hv : ∀ j, c ≤ j → j < c' → v i j = false) :
    v.best (i + 1) c' ≤ max (v.best i c') (v.best (i + 1) c) := by
  induction c', h using Nat.le_induction with
  | base => exact Nat.le_max_right _ _
  | succ j hj ih =>
    have hfront := ih fun j' hle hlt => hv j' hle (by omega)
    have hstep := (v.best_steps i j).2.1
    rw [best_of_mismatch (hv j hj (Nat.lt_succ_self j))]
    omega

/-! ## §2. Runs of moves without a match. -/

/-- As long as nothing is lost by it and there is no match, the walk goes up. -/
theorem pairs_of_up_run (h : r ≤ r') (hbest : v.best r' (j + 1) = v.best r (j + 1))
    (hv : ∀ i, r ≤ i → i < r' → v i j = false) : v.pairs r' (j + 1) = v.pairs r (j + 1) := by
  induction r', h using Nat.le_induction with
  | base => rfl
  | succ i hi ih =>
    have hmismatch := hv i hi (Nat.lt_succ_self i)
    have hcell := best_of_mismatch hmismatch
    have hfront := v.best_mono_left (j + 1) hi
    rw [pairs_of_up hmismatch (by omega)]
    exact ih (by omega) fun i' hle hlt => hv i' hle (by omega)

/-- Where the row above is worth less and there is no match, the walk goes left. -/
theorem pairs_of_left_run (h : c ≤ c') (habove : v.best i c' < v.best (i + 1) c)
    (hv : ∀ j, c ≤ j → j < c' → v i j = false) : v.pairs (i + 1) c' = v.pairs (i + 1) c := by
  induction c', h using Nat.le_induction with
  | base => rfl
  | succ j hj ih =>
    have hfront := v.best_mono_right (i + 1) hj
    have hstep := (v.best_steps i j).2.1
    rw [pairs_of_left (hv j hj (Nat.lt_succ_self j)) (by omega)]
    exact ih (by omega) fun j' hle hlt => hv j' hle (by omega)

/-! ## §3. The pair that is recorded first. -/

/-- A match in the column at or below the least row that holds as much comes with one at that row:
otherwise the columns in front would hold as much already. -/
theorem match_of_match_below (hless : v.best r (j + 1) < v.best (r + 1) (j + 1)) (hri : r ≤ i)
    (hbest : v.best (i + 1) (j + 1) = v.best (r + 1) (j + 1)) (hv : v i j = true) :
    v r j = true := by
  cases hr : v r j with
  | true => rfl
  | false =>
    have hcell := best_of_mismatch hr
    have hmatch := best_of_match hv
    have hne : r ≠ i := by
      rintro rfl
      rw [hr] at hv
      cases hv
    have hmono := v.best_mono_left j (show r + 1 ≤ i by omega)
    omega

/-- Where the walk from cell `(r, c)` records its first pair: `top` is the least row whose cell in
column `c` holds as much as that cell. -/
structure Lands (v : Verdicts) (r c top : Nat) (q : Pair) : Prop where
  isLeast : IsLeast {i | v.best i c = v.best r c} top
  top_pos : 0 < top
  column_pos : 0 < c
  /-- If the elements in front of cell `(top, c)` match, the pair lies in their column. -/
  in_column : v (top - 1) (c - 1) = true →
    q.column = c - 1 ∧ IsGreatest {i | i < r ∧ v i (c - 1) = true} q.row
  /-- Otherwise it lies in the row of the first of them. -/
  in_row : v (top - 1) (c - 1) = false →
    q.row = top - 1 ∧ IsGreatest {j | j < c ∧ v (top - 1) j = true} q.column

/-- There is a last match in front of a bound, if there is a match at all. -/
theorem exists_last_match {f : Nat → Bool} {n : Nat} (hk : k < n) (hf : f k = true) :
    ∃ m, IsGreatest {i | i < n ∧ f i = true} m :=
  BddAbove.exists_isGreatest_of_nonempty ⟨n, fun _ hi => Nat.le_of_lt hi.1⟩ ⟨k, hk, hf⟩

/-- Behind the last match there is none. -/
theorem mismatch_behind_last {f : Nat → Bool} {n m : Nat}
    (h : IsGreatest {i | i < n ∧ f i = true} m) (hmi : m + 1 ≤ i) (hin : i < n) :
    f i = false := by
  rw [← Bool.not_eq_true]
  intro hf
  have hle := h.2 ⟨hin, hf⟩
  omega

/-- The least row whose cell in a column holds as much as a cell that is not zero; the cell above it
holds less. -/
theorem exists_top (h : 0 < v.best r c) :
    ∃ t, IsLeast {i | v.best i c = v.best r c} (t + 1) ∧ t + 1 ≤ r
      ∧ v.best (t + 1) c = v.best r c ∧ v.best t c < v.best (t + 1) c := by
  have hexists : ∃ i, v.best i c = v.best r c := ⟨r, rfl⟩
  have hleast := Nat.isLeast_find hexists
  have hbest : v.best (Nat.find hexists) c = v.best r c := hleast.1
  obtain ⟨t, ht⟩ : ∃ t, Nat.find hexists = t + 1 := by
    refine Nat.exists_eq_add_one_of_ne_zero ?_
    intro hzero
    rw [hzero, best_zero_left] at hbest
    omega
  rw [ht] at hleast hbest
  refine ⟨t, hleast, hleast.2 rfl, hbest, ?_⟩
  have hmono := (v.best_steps t c).1.1
  have hne : v.best t c ≠ v.best r c := fun he => absurd (hleast.2 he) (Nat.not_succ_le_self t)
  omega

/-- If a match lies on the way up to a row that holds as much, the last one is recorded. -/
theorem pairs_of_match_above {t : Nat} (htr : t + 1 ≤ r)
    (hbest : v.best (t + 1) (j + 1) = v.best r (j + 1)) (hv : v t j = true) :
    ∃ i, IsGreatest {i | i < r ∧ v i j = true} i ∧ v.pairs r (j + 1) = v.pairs i j ++ [⟨i, j⟩]
      ∧ v.best r (j + 1) = v.best i j + 1 := by
  obtain ⟨i, hi⟩ := exists_last_match (f := fun i => v i j) htr hv
  have hir : i + 1 ≤ r := hi.1.1
  have hti : t ≤ i := hi.2 ⟨htr, hv⟩
  have hmatch : v i j = true := hi.1.2
  -- the cell below the match lies between two cells that hold the same
  have hcell : v.best r (j + 1) = v.best (i + 1) (j + 1) := by
    have hup := v.best_mono_left (j + 1) (show t + 1 ≤ i + 1 by omega)
    have hdown := v.best_mono_left (j + 1) hir
    omega
  refine ⟨i, hi, ?_, ?_⟩
  · rw [pairs_of_up_run hir hcell fun _ => mismatch_behind_last hi, pairs_of_match hmatch]
  · rw [hcell, best_of_match hmatch]

/-- Where the row above is worth less, the last match of the row is recorded. -/
theorem pairs_of_match_beside {t : Nat} (h : v.best t c < v.best (t + 1) c) :
    ∃ j, IsGreatest {j | j < c ∧ v t j = true} j ∧ v.pairs (t + 1) c = v.pairs t j ++ [⟨t, j⟩]
      ∧ v.best (t + 1) c = v.best t j + 1 := by
  obtain ⟨k, hk, hvk⟩ : ∃ k, k < c ∧ v t k = true := by
    apply Classical.byContradiction
    intro hnone
    -- a row without a match is worth nothing
    have hle := v.best_le_of_no_match (i := t) (Nat.zero_le c) fun k _ hk => by
      rw [← Bool.not_eq_true]
      exact fun hvk => hnone ⟨k, hk, hvk⟩
    rw [best_zero_right] at hle
    omega
  obtain ⟨j, hj⟩ := exists_last_match hk hvk
  have hjc : j + 1 ≤ c := hj.1.1
  have hmatch : v t j = true := hj.1.2
  have hfront := v.best_le_of_no_match hjc fun _ => mismatch_behind_last hj
  have hmono := v.best_mono_right (t + 1) hjc
  refine ⟨j, hj, ?_, ?_⟩
  · rw [pairs_of_left_run hjc (by omega) fun _ => mismatch_behind_last hj, pairs_of_match hmatch]
  · rw [← best_of_match hmatch]
    omega

/-- **The pair that a walk records first**, and what is left of the walk. -/
theorem exists_lands (h : 0 < v.best r c) :
    ∃ top q, v.Lands r c top q ∧ v.pairs r c = v.pairs q.row q.column ++ [q]
      ∧ v.best r c = v.best q.row q.column + 1 := by
  obtain ⟨j, rfl⟩ : ∃ j, c = j + 1 := by
    refine Nat.exists_eq_add_one_of_ne_zero ?_
    rintro rfl
    simp at h
  obtain ⟨t, hleast, htr, hbest, hless⟩ := exists_top h
  cases hv : v t j with
  | true =>
    obtain ⟨i, hi, hpairs, hcell⟩ := pairs_of_match_above htr hbest hv
    refine ⟨t + 1, ⟨i, j⟩, ⟨hleast, Nat.succ_pos t, Nat.succ_pos j, ?_, ?_⟩, hpairs, hcell⟩
    · exact fun _ => ⟨rfl, hi⟩
    · exact fun hc => absurd (hv.symm.trans hc) (by decide)
  | false =>
    -- there is no match on the way up, so the walk turns left at the least row
    have hrun := pairs_of_up_run htr hbest.symm fun i hti hir => by
      rw [← Bool.not_eq_true]
      intro hmatch
      have hup := v.best_mono_left (j + 1) (show t + 1 ≤ i + 1 by omega)
      have hdown := v.best_mono_left (j + 1) (show i + 1 ≤ r from hir)
      rw [match_of_match_below hless (by omega) (by omega) hmatch] at hv
      cases hv
    obtain ⟨j', hj', hpairs, hcell⟩ := pairs_of_match_beside hless
    refine ⟨t + 1, ⟨t, j'⟩, ⟨hleast, Nat.succ_pos t, Nat.succ_pos j, ?_, ?_⟩, ?_, ?_⟩
    · exact fun hc => absurd (hv.symm.trans hc) (by decide)
    · exact fun _ => ⟨rfl, hj'⟩
    · rw [hrun, hpairs]
    · rw [← hbest, hcell]

end Verdicts

/-! ## §4. Every recorded pair. -/

/-- The cell from which pair `t` of a walk is found: the cell of the pair behind it, or else the
cell `(r, c)` that the walk begins with. -/
def Pair.cellBehind (ps : List Pair) (r c t : Nat) : Nat × Nat :=
  match ps[t + 1]? with
  | some q => (q.row, q.column)
  | none => (r, c)

/-- Seen from the pairs in front of it, the last pair is where their own walk begins. -/
theorem Pair.cellBehind_snoc {ps : List Pair} {t : Nat} (q : Pair) (r c : Nat)
    (h : t < ps.length) :
    cellBehind (ps ++ [q]) r c t = cellBehind ps q.row q.column t := by
  unfold cellBehind
  by_cases ht : t + 1 < ps.length
  · rw [List.getElem?_append_left ht, List.getElem?_eq_getElem ht]
  · have hlen : ps.length = t + 1 := by omega
    rw [← hlen, List.getElem?_concat_length, List.getElem?_eq_none (Nat.le_refl _)]

theorem Pair.cellBehind_last (ps : List Pair) (q : Pair) (r c : Nat) :
    cellBehind (ps ++ [q]) r c ps.length = (r, c) := by
  unfold cellBehind
  rw [List.getElem?_eq_none (by simp)]

namespace Verdicts

variable {v : Verdicts} {r c t : Nat} {q : Pair}

/-- The walk never leaves the corner that it starts from. -/
theorem cellBehind_pairs_le (v : Verdicts) (r c t : Nat) :
    (Pair.cellBehind (v.pairs r c) r c t).1 ≤ r ∧ (Pair.cellBehind (v.pairs r c) r c t).2 ≤ c := by
  unfold Pair.cellBehind
  cases hq : (v.pairs r c)[t + 1]? with
  | none => exact ⟨Nat.le_refl r, Nat.le_refl c⟩
  | some q =>
    obtain ⟨hr, hc, _⟩ := mem_pairs (List.mem_of_getElem? hq)
    exact ⟨Nat.le_of_lt hr, Nat.le_of_lt hc⟩

/-- Pair `t` is where the walk from the cell behind it records first; that cell is worth `t + 1` and
what is in front of the pair is worth `t`. -/
theorem lands_of_getElem? (hq : (v.pairs r c)[t]? = some q) :
    let next := Pair.cellBehind (v.pairs r c) r c t
    v.best next.1 next.2 = t + 1 ∧ v.best q.row q.column = t
      ∧ ∃ top, v.Lands next.1 next.2 top q := by
  -- the walk in front of the pair that is recorded first is shorter by one
  induction hn : v.best r c generalizing r c with
  | zero =>
    rw [← length_pairs, List.length_eq_zero_iff] at hn
    simp [hn] at hq
  | succ n ih =>
    obtain ⟨top, q', hlands, hpairs, hbest⟩ := exists_lands (v := v) (r := r) (c := c) (by omega)
    have hlen := v.length_pairs q'.row q'.column
    have hlt : t < (v.pairs r c).length := (List.getElem?_eq_some_iff.1 hq).1
    rw [hpairs] at hq hlt ⊢
    rw [List.length_append, List.length_singleton] at hlt
    by_cases ht : t < (v.pairs q'.row q'.column).length
    · rw [List.getElem?_append_left ht] at hq
      rw [Pair.cellBehind_snoc q' r c ht]
      exact ih hq (by omega)
    · obtain rfl : t = (v.pairs q'.row q'.column).length := by omega
      obtain rfl : q' = q := by simpa using hq
      rw [Pair.cellBehind_last]
      exact ⟨hbest.trans (congrArg (· + 1) hlen.symm), hlen.symm, top, hlands⟩

end Verdicts

/-! ## §5. The path, from the grid and the verdict. -/

/-- The cell can be read, and it holds the number `k`. -/
def Grid.Counts (g : Grid) (r c k : Nat) : Prop :=
  ∃ w : Int32, g.read r c = .ok w ∧ w.toInt = k

/-- A cell of a grid of small numbers counts the number that it holds. -/
theorem Grid.Holds.counts_iff {g : Grid} {rows columns r c k : Nat} {f : Nat → Nat → Nat}
    (h : g.Holds rows columns f) (hsmall : ∀ r < rows, ∀ c < columns, f r c < 2147483648) :
    g.Counts r c k ↔ r < rows ∧ c < columns ∧ f r c = k := by
  constructor
  · intro hcounts
    obtain ⟨w, hread, hw⟩ := hcounts
    have hin : g.InRange r c := by
      apply Classical.byContradiction
      intro hout
      rw [Grid.read_of_not_inRange hout] at hread
      cases hread
    have hr : r < rows := h.rows_eq ▸ hin.1
    have hc : c < columns := h.columns_eq ▸ hin.2
    rw [h.read_eq r hr c hc, Except.ok.injEq] at hread
    rw [← hread, Int32.toInt_ofNat_of_lt (hsmall r hr c hc)] at hw
    exact ⟨hr, hc, by omega⟩
  · intro hcell
    obtain ⟨hr, hc, rfl⟩ := hcell
    exact ⟨_, h.read_eq r hr c hc, Int32.toInt_ofNat_of_lt (hsmall r hr c hc)⟩

/-- **Which pairs the walk records**, under any verdict.  There are as many as the corner counts.
Pair `t` is found from the cell of the pair behind it, or from the corner, and that cell counts
`t + 1`.  Let `top` be the least row whose cell counts as much in that column.  If the elements in
front of that cell match, the pair is the last match of the column above the cell it is found from;
otherwise it is the last match of the row in front of `top`.  The cell of the first pair counts
zero. -/
theorem walk_positions {α β : Type} (p : Problem α β) (hl : p.Lawful) (hf : p.Fits) :
    ∃ g path, p.fill = .ok g ∧ p.path = .ok path
      ∧ ((Engine.ofProblem p).backtrack.run (.fresh () ())).answer = .ok path
      ∧ g.Counts p.rows.size p.columns.size path.pairs.length
      ∧ (∀ t q, path.pairs[t]? = some q →
        let next := Pair.cellBehind path.pairs p.rows.size p.columns.size t
        g.Counts next.1 next.2 (t + 1)
          ∧ ∃ top, IsLeast {i | g.Counts i next.2 (t + 1)} top ∧ 0 < top ∧ 0 < next.2
            ∧ (p.Matches ⟨top - 1, next.2 - 1⟩ → q.column = next.2 - 1
              ∧ IsGreatest {i | i < next.1 ∧ p.Matches ⟨i, next.2 - 1⟩} q.row)
            ∧ (¬ p.Matches ⟨top - 1, next.2 - 1⟩ → q.row = top - 1
              ∧ IsGreatest {j | j < next.2 ∧ p.Matches ⟨top - 1, j⟩} q.column))
      ∧ ∀ q, path.pairs[0]? = some q → g.Counts q.row q.column 0 := by
  obtain ⟨g, hfill, hg⟩ := hl.fill_spec hf
  have hcounts : ∀ {r c k}, g.Counts r c k ↔ r < p.rows.size + 1 ∧ c < p.columns.size + 1
      ∧ p.verdicts.best r c = k :=
    hg.counts_iff fun r hr c hc =>
      Problem.best_lt_of_fits hf (Nat.le_of_lt_succ hr) (Nat.le_of_lt_succ hc)
  refine ⟨g, _, hfill, hl.path_eq hf, ?_, ?_, ?_, ?_⟩
  · rw [Engine.answer_backtrack_fresh hfill (Problem.corner_of_holds hg), hl.backtrack_eq hf hg,
      Problem.path_trail]
  · have hlen := p.verdicts.length_pairs p.rows.size p.columns.size
    exact hcounts.2 ⟨Nat.lt_succ_self _, Nat.lt_succ_self _, hlen.symm⟩
  · intro t q hq next
    obtain ⟨hnext, _, top, hlands⟩ := Verdicts.lands_of_getElem? hq
    obtain ⟨hr, hc⟩ := p.verdicts.cellBehind_pairs_le p.rows.size p.columns.size t
    have hcell := hcounts.2 ⟨Nat.lt_succ_of_le hr, Nat.lt_succ_of_le hc, hnext⟩
    refine ⟨hcell, top, ⟨?_, ?_⟩, hlands.top_pos, hlands.column_pos, ?_⟩
    · have hle := hlands.isLeast.2 rfl
      exact hcounts.2 ⟨Nat.lt_succ_of_le (Nat.le_trans hle hr), Nat.lt_succ_of_le hc,
        hlands.isLeast.1.trans hnext⟩
    · intro i hi
      obtain ⟨_, _, hbest⟩ := hcounts.1 hi
      exact hlands.isLeast.2 (hbest.trans hnext.symm)
    · simp only [Problem.matches_iff, Bool.not_eq_true]
      exact ⟨hlands.in_column, hlands.in_row⟩
  · intro q hq
    obtain ⟨hr, hc, _⟩ := Verdicts.mem_pairs (List.mem_of_getElem? hq)
    obtain ⟨_, hfront, _⟩ := Verdicts.lands_of_getElem? hq
    exact hcounts.2 ⟨by omega, by omega, hfront⟩

/-- The last interval and the one in front of it both count two in the column of `8`, but only the
latter matches there; the first interval then is left of the column it is found from. -/
theorem walk_positions_intervals :
    let p : Problem Agreement.Interval Int :=
      ⟨Indexed.ofList [⟨0, 3⟩, ⟨2, 9⟩, ⟨4, 5⟩], Indexed.ofList [1, 5, 8], Agreement.contains⟩
    p.Lawful ∧ p.Fits ∧ p.path = .ok ⟨[⟨0, 0⟩, ⟨1, 2⟩]⟩
      ∧ ∃ g, p.fill = .ok g ∧ g.Counts 3 3 2 ∧ g.Counts 1 2 1 ∧ g.Counts 0 0 0
        ∧ (∃ top, IsLeast {i | g.Counts i 3 2} top
          ∧ (p.Matches ⟨top - 1, 2⟩ → IsGreatest {i | i < 3 ∧ p.Matches ⟨i, 2⟩} 1))
        ∧ ∃ top, IsLeast {i | g.Counts i 2 1} top
          ∧ (¬ p.Matches ⟨top - 1, 1⟩ → IsGreatest {j | j < 2 ∧ p.Matches ⟨top - 1, j⟩} 0) := by
  intro p
  have hlawful : p.Lawful := ⟨Indexed.lawful_ofList _, Indexed.lawful_ofList _⟩
  have hfits : p.Fits := by decide
  have hpath : p.path = .ok ⟨[⟨0, 0⟩, ⟨1, 2⟩]⟩ := by cbv
  obtain ⟨g, path, hfill, hp, _, _, hpairs, hfirst⟩ := walk_positions p hlawful hfits
  obtain rfl : path = ⟨[⟨0, 0⟩, ⟨1, 2⟩]⟩ := by
    rw [hpath, Except.ok.injEq] at hp
    exact hp.symm
  obtain ⟨hcorner, top, hleast, _, _, habove, _⟩ := hpairs 1 ⟨1, 2⟩ rfl
  obtain ⟨hcell, top', hleast', _, _, _, hbeside⟩ := hpairs 0 ⟨0, 0⟩ rfl
  exact ⟨hlawful, hfits, hpath, g, hfill, hcorner, hcell, hfirst ⟨0, 0⟩ rfl,
    ⟨top, hleast, fun h => (habove h).2⟩, top', hleast', fun h => (hbeside h).2⟩

end CommonSubsequence
