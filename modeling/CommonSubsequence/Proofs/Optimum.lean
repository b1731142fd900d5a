/-
  CommonSubsequence.Proofs.Optimum — every cell of the grid is the optimum of its corner.

  A chain among the first `r` rows and `c` columns has at most as many pairs as the common length
  of the corner: all but the last of its pairs lie in the corner in front of that pair, and the
  recurrence looks at every place where the last pair can be.  The walk records a chain of that
  many pairs.  So the common length is the optimum under any verdict whatever, and the grid, which
  holds the common lengths, holds optima.

  Main results:
    * `Problem.IsChain.length_le_best` — no chain is longer than the common length.
    * `Problem.isOptimum_best` — the common length is the optimum of its corner.
    * `grid_isOptimum` — the grid and both ways of asking for the length.
-/
import CommonSubsequence.Alignment.Agreement
import CommonSubsequence.Alignment.Strings
import CommonSubsequence.Proofs.Characters
import CommonSubsequence.Proofs.Filling
import CommonSubsequence.Proofs.Runs

namespace CommonSubsequence

namespace Problem

variable {α β : Type} {p : Problem α β}

/-! ## §1. Chains. -/

/-- A chain in a corner is one in every corner around it. -/
theorem IsChain.mono {r c r' c' : Nat} {ps : List Pair} (h : p.IsChain r c ps) (hr : r ≤ r')
    (hc : c ≤ c') : p.IsChain r' c' ps := by
  refine ⟨h.ascending, ?_, h.matching⟩
  intro q hq
  obtain ⟨hrow, hcolumn⟩ := h.inside q hq
  exact ⟨by omega, by omega⟩

/-- A chain is empty, or it ends with a match behind a chain in front of that match. -/
theorem IsChain.eq_nil_or_last {r c : Nat} {ps : List Pair} (h : p.IsChain r c ps) :
    ps = [] ∨ ∃ qs q, ps = qs ++ [q] ∧ q.row < r ∧ q.column < c
      ∧ p.verdicts q.row q.column = true ∧ p.IsChain q.row q.column qs := by
  rcases List.eq_nil_or_concat ps with hnil | ⟨qs, q, hps⟩
  · exact Or.inl hnil
  rw [List.concat_eq_append] at hps
  subst hps
  right
  have hq : q ∈ qs ++ [q] := List.mem_append_right qs List.mem_cons_self
  obtain ⟨hrow, hcolumn⟩ := h.inside q hq
  obtain ⟨hasc, _, hbefore⟩ := List.pairwise_append.1 h.ascending
  refine ⟨qs, q, rfl, hrow, hcolumn, matches_iff.1 (h.matching q hq), hasc, ?_, ?_⟩
  · intro q' hq'
    exact hbefore q' hq' q List.mem_cons_self
  · intro q' hq'
    exact h.matching q' (List.mem_append_left [q] hq')

/-- A match behind a chain in front of it ends a longer chain. -/
theorem IsChain.snoc {r c : Nat} {qs : List Pair} {q : Pair} (h : p.IsChain q.row q.column qs)
    (hv : p.verdicts q.row q.column = true) (hr : q.row < r) (hc : q.column < c) :
    p.IsChain r c (qs ++ [q]) := by
  refine ⟨h.ascending.snoc h.inside, ?_, ?_⟩
  · intro q' hq'
    rw [List.mem_append, List.mem_singleton] at hq'
    rcases hq' with hq' | rfl
    · obtain ⟨hrow, hcolumn⟩ := h.inside q' hq'
      exact ⟨by omega, by omega⟩
    · exact ⟨hr, hc⟩
  · intro q' hq'
    rw [List.mem_append, List.mem_singleton] at hq'
    rcases hq' with hq' | rfl
    · exact h.matching q' hq'
    · exact matches_iff.2 hv

/-! ## §2. The common length is the optimum. -/

/-- No chain is longer than the common length of its corner. -/
theorem IsChain.length_le_best {r c : Nat} {ps : List Pair} (h : p.IsChain r c ps) :
    ps.length ≤ p.verdicts.best r c := by
  induction r, c using Verdicts.best.induct p.verdicts generalizing ps with
  | case1 c =>
    rcases h.eq_nil_or_last with rfl | ⟨qs, q, rfl, hr, _⟩
    · exact Nat.zero_le _
    · omega
  | case2 i =>
    rcases h.eq_nil_or_last with rfl | ⟨qs, q, rfl, _, hc, _⟩
    · exact Nat.zero_le _
    · omega
  | case3 i j hv ih =>
    rw [Verdicts.best_of_match hv]
    rcases h.eq_nil_or_last with rfl | ⟨qs, q, rfl, hr, hc, _, hfront⟩
    · exact Nat.zero_le _
    · -- what is in front of the last pair lies in front of the match of this cell
      have hqs := ih (hfront.mono (Nat.le_of_lt_succ hr) (Nat.le_of_lt_succ hc))
      rw [List.length_append, List.length_singleton]
      omega
  | case4 i j hv ihu ihl =>
    rw [Verdicts.best_of_mismatch (by simpa using hv)]
    rcases h.eq_nil_or_last with rfl | ⟨qs, q, rfl, hr, hc, hq, hfront⟩
    · exact Nat.zero_le _
    · -- the last pair matches, so it is not the pair of this cell
      have hne : q.row < i ∨ q.column < j := by
        apply Decidable.byContradiction
        intro hcorner
        have hi : q.row = i := by omega
        have hj : q.column = j := by omega
        rw [hi, hj] at hq
        exact hv hq
      rcases hne with hlt | hlt
      · -- the chain does without the last row
        have hup := ihu (hfront.snoc hq hlt hc)
        omega
      · have hleft := ihl (hfront.snoc hq hr hlt)
        omega

/-- The pairs that a walk records are a chain. -/
theorem isChain_pairs (p : Problem α β) (r c : Nat) : p.IsChain r c (p.verdicts.pairs r c) := by
  refine ⟨Verdicts.ascending_pairs p.verdicts r c, ?_, ?_⟩
  · intro q hq
    obtain ⟨hr, hc, _⟩ := Verdicts.mem_pairs hq
    exact ⟨hr, hc⟩
  · intro q hq
    obtain ⟨_, _, hv⟩ := Verdicts.mem_pairs hq
    exact matches_iff.2 hv

/-- The common length is the optimum of its corner. -/
theorem isOptimum_best (p : Problem α β) (r c : Nat) : p.IsOptimum r c (p.verdicts.best r c) := by
  refine ⟨⟨p.verdicts.pairs r c, isChain_pairs p r c, Verdicts.length_pairs p.verdicts r c⟩, ?_⟩
  intro ps h
  exact h.length_le_best

/-! ## §3. Lawful problems. -/

/-- Where nothing is missing, every cell holds the common length of its corner. -/
theorem Lawful.cell_eq (h : p.Lawful) {r c : Nat} (hr : r ≤ p.rows.size)
    (hc : c ≤ p.columns.size) : p.cell r c = p.verdicts.best r c := by
  unfold cell
  rw [h.1.length_items, h.2.length_items, if_pos ⟨hr, hc⟩]

/-- The finished grid of a lawful problem. -/
theorem Lawful.fill_spec (h : p.Lawful) (hf : p.Fits) :
    ∃ g, p.fill = .ok g ∧ g.Holds (p.rows.size + 1) (p.columns.size + 1) p.verdicts.best := by
  obtain ⟨g, hfill, hholds⟩ := Problem.fill_spec hf
  refine ⟨g, hfill, hholds.congr ?_⟩
  intro r hr c hc
  exact h.cell_eq (by omega) (by omega)

/-- The bottom right cell holds the common length of the whole. -/
theorem corner_of_holds {g : Grid}
    (h : g.Holds (p.rows.size + 1) (p.columns.size + 1) p.verdicts.best) :
    p.corner g = .ok (Int32.ofNat (p.verdicts.best p.rows.size p.columns.size)) :=
  h.read_eq p.rows.size (by omega) p.columns.size (by omega)

/-- The length of a lawful problem is the common length of the whole. -/
theorem Lawful.length_eq (h : p.Lawful) (hf : p.Fits) :
    p.length = .ok (p.verdicts.best p.rows.size p.columns.size) := by
  obtain ⟨g, hfill, hholds⟩ := h.fill_spec hf
  rw [length_of_corner hfill (corner_of_holds hholds),
    count_ofNat (best_lt_of_fits hf (Nat.le_refl _) (Nat.le_refl _))]

/-- The characters of two strings make a lawful problem. -/
theorem lawful_ofStrings (a b : String) : (ofStrings a b).Lawful :=
  ⟨Indexed.lawful_ofString a, Indexed.lawful_ofString b⟩

/-- The grid of two strings has one row more and one column more than they have characters. -/
theorem fits_ofStrings {a b : String} (h : Grid.Fits (a.length + 1) (b.length + 1)) :
    (ofStrings a b).Fits := by
  show Grid.Fits ((Indexed.ofString a).size + 1) ((Indexed.ofString b).size + 1)
  rw [Indexed.size_ofString, Indexed.size_ofString]
  exact h

end Problem

/-! ## §4. Optimality of the grid. -/

/-- Under any verdict, every cell of the grid is the greatest length of a chain in its corner, and
the length of the problem is the optimum, whether it is asked of the problem or of an engine. -/
theorem grid_isOptimum :
    (∀ {α β : Type} (p : Problem α β), p.Lawful → p.Fits →
      ∃ g, p.fill = .ok g ∧ g.rows = p.rows.size + 1 ∧ g.columns = p.columns.size + 1
        ∧ (∀ r ≤ p.rows.size, ∀ c ≤ p.columns.size,
          ∃ (w : Int32) (k : Nat), g.read r c = .ok w ∧ w.toInt = k ∧ p.IsOptimum r c k)
        ∧ ∃ k, p.length = .ok k
          ∧ ((Engine.ofProblem p).length.run (.fresh () ())).answer = .ok k
          ∧ p.IsOptimum p.rows.size p.columns.size k)
    ∧ ∀ a b : String, Grid.Fits (a.length + 1) (b.length + 1) →
      ∃ k, commonLength a b = .ok k ∧ (Problem.ofStrings a b).IsOptimum a.length b.length k := by
  constructor
  · intro α β p hl hf
    obtain ⟨g, hfill, hholds⟩ := hl.fill_spec hf
    have hcorner := Problem.corner_of_holds hholds
    refine ⟨g, hfill, hholds.rows_eq, hholds.columns_eq, ?_, _, hl.length_eq hf, ?_,
      p.isOptimum_best _ _⟩
    · intro r hr c hc
      refine ⟨_, _, hholds.read_eq r (by omega) c (by omega), ?_, p.isOptimum_best r c⟩
      exact Int32.toInt_ofNat_of_lt (Problem.best_lt_of_fits hf hr hc)
    · rw [Engine.answer_length_fresh hfill hcorner,
        Problem.count_ofNat (Problem.best_lt_of_fits hf (Nat.le_refl _) (Nat.le_refl _))]
  · intro a b hf
    have hlength := (Problem.lawful_ofStrings a b).length_eq (Problem.fits_ofStrings hf)
    have hopt := (Problem.ofStrings a b).isOptimum_best a.length b.length
    rw [show (Problem.ofStrings a b).rows.size = a.length from Indexed.size_ofString a,
      show (Problem.ofStrings a b).columns.size = b.length from Indexed.size_ofString b] at hlength
    exact ⟨_, hlength, hopt⟩

/-- Tolerances count on the side of the rows only, so this verdict is not symmetric. -/
theorem grid_isOptimum_tolerances :
    let p : Problem Agreement.Approximate Agreement.Approximate :=
      ⟨Indexed.ofList [⟨1, 1⟩, ⟨4, 0⟩], Indexed.ofList [⟨4, 3⟩, ⟨2, 0⟩], Agreement.near⟩
    p.Lawful ∧ p.Fits ∧ (∃ g k, p.fill = .ok g ∧ p.length = .ok k ∧ p.IsOptimum 2 2 k)
      ∧ Grid.Fits ("añb".length + 1) ("bañ".length + 1)
      ∧ ∃ k, commonLength "añb" "bañ" = .ok k
        ∧ (Problem.ofStrings "añb" "bañ").IsOptimum "añb".length "bañ".length k := by
  intro p
  have hlawful : p.Lawful := ⟨Indexed.lawful_ofList _, Indexed.lawful_ofList _⟩
  have hfits : p.Fits := by decide
  have hstrings : Grid.Fits ("añb".length + 1) ("bañ".length + 1) := by decide
  obtain ⟨g, hfill, _, _, _, k, hlength, _, hopt⟩ := grid_isOptimum.1 p hlawful hfits
  exact ⟨hlawful, hfits, ⟨g, k, hfill, hlength, hopt⟩, hstrings,
    grid_isOptimum.2 "añb" "bañ" hstrings⟩

end CommonSubsequence
