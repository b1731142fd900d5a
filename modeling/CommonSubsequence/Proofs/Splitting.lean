/-
  CommonSubsequence.Proofs.Splitting — the two parts of a problem that is split at a row.

  A chain of matches can be cut at any row: its pairs in front of the row lie in some corner, and
  the others lie beyond that corner in both coordinates.  Conversely a chain of a corner can be
  glued to any chain beyond it.  The common length is therefore the greatest sum of a cell of the
  row, which counts the corner, and the length of the problem that is left beyond it.  Nothing is
  asked of the verdict.

  Main results:
    * `Problem.IsChain.glue`, `Problem.IsChain.cut` — chains of a corner and beyond it.
    * `Problem.best_add_suffix_le`, `Problem.exists_best_split` — the two halves of the law.
    * `length_split` — grids and lengths of a lawful problem and of what is left of it.
-/
import CommonSubsequence.Alignment.Agreement
import CommonSubsequence.Proofs.Optimum

namespace CommonSubsequence

/-! ## §1. What lies beyond a corner. -/

/-- The pair `r` rows and `c` columns further on. -/
def Pair.shift (r c : Nat) (q : Pair) : Pair :=
  ⟨r + q.row, c + q.column⟩

namespace Problem

variable {α β : Type} {p : Problem α β} {r c n m : Nat} {ps qs : List Pair}

/-- What is left of a problem without its first `r` rows and its first `c` columns. -/
def suffix (p : Problem α β) (r c : Nat) : Problem α β where
  rows := p.rows.drop r
  columns := p.columns.drop c
  agree := p.agree

/-- Beyond the corner the same elements are compared, counted from the corner on. -/
theorem matches_shift {q : Pair} : p.Matches (q.shift r c) ↔ (p.suffix r c).Matches q :=
  Iff.rfl

/-- What is left of a lawful problem is lawful. -/
theorem Lawful.suffix (h : p.Lawful) (r c : Nat) : (p.suffix r c).Lawful :=
  ⟨h.1.drop r, h.2.drop c⟩

/-- If the grid of the whole fits, so does the grid of what is left. -/
theorem fits_suffix (h : p.Fits) (r c : Nat) : (p.suffix r c).Fits := by
  unfold Fits at h ⊢
  have hrows : p.rows.size - r + 1 ≤ p.rows.size + 1 := by omega
  have hcolumns : p.columns.size - c + 1 ≤ p.columns.size + 1 := by omega
  exact h.mono hrows hcolumns

/-! ## §2. Gluing and cutting chains. -/

/-- A chain of a corner and a chain beyond the corner make one chain. -/
theorem IsChain.glue {a b : Nat} (hps : p.IsChain r c ps) (hqs : (p.suffix r c).IsChain a b qs) :
    p.IsChain (r + a) (c + b) (ps ++ qs.map (Pair.shift r c)) := by
  refine ⟨?_, ?_, ?_⟩
  · refine List.pairwise_append.2 ⟨hps.ascending, ?_, ?_⟩
    · refine List.pairwise_map.2 (hqs.ascending.imp ?_)
      intro q q' hq
      exact ⟨Nat.add_lt_add_left hq.1 r, Nat.add_lt_add_left hq.2 c⟩
    · -- the first chain ends inside the corner, the second one starts outside of it
      intro q hq q' hq'
      obtain ⟨q₀, _, rfl⟩ := List.mem_map.1 hq'
      obtain ⟨hrow, hcolumn⟩ := hps.inside q hq
      exact ⟨Nat.lt_add_right q₀.row hrow, Nat.lt_add_right q₀.column hcolumn⟩
  · intro q hq
    rcases List.mem_append.1 hq with hq | hq
    · obtain ⟨hrow, hcolumn⟩ := hps.inside q hq
      exact ⟨Nat.lt_add_right a hrow, Nat.lt_add_right b hcolumn⟩
    · obtain ⟨q₀, hq₀, rfl⟩ := List.mem_map.1 hq
      obtain ⟨hrow, hcolumn⟩ := hqs.inside q₀ hq₀
      exact ⟨Nat.add_lt_add_left hrow r, Nat.add_lt_add_left hcolumn c⟩
  · intro q hq
    rcases List.mem_append.1 hq with hq | hq
    · exact hps.matching q hq
    · obtain ⟨q₀, hq₀, rfl⟩ := List.mem_map.1 hq
      exact matches_shift.2 (hqs.matching q₀ hq₀)

/-- Every chain falls into a chain of some corner of the first `r` rows and a chain beyond it. -/
theorem IsChain.cut (h : p.IsChain n m ps) (r : Nat) :
    ∃ c ≤ m, ∃ front back, ps = front ++ back.map (Pair.shift r c)
      ∧ p.IsChain r c front ∧ (p.suffix r c).IsChain (n - r) (m - c) back := by
  -- pairs are taken off the end until one lies in front of row `r`
  induction hlen : ps.length generalizing ps n m with
  | zero =>
    rw [List.length_eq_zero_iff] at hlen
    subst hlen
    exact ⟨m, Nat.le_refl m, [], [], rfl, p.isChain_nil r m, isChain_nil _ _ _⟩
  | succ k ih =>
    rcases h.eq_nil_or_last with rfl | ⟨qs, q, rfl, hrow, hcolumn, hv, hfront⟩
    · cases hlen
    by_cases hq : q.row < r
    · -- the whole chain lies in front of the row
      refine ⟨m, Nat.le_refl m, qs ++ [q], [], ?_, hfront.snoc hv hq hcolumn, isChain_nil _ _ _⟩
      rw [List.map_nil, List.append_nil]
    · rw [List.length_append, List.length_singleton, Nat.succ_inj] at hlen
      obtain ⟨c, hc, front, back, hqs, hcorner, hbeyond⟩ := ih hfront hlen
      have hshift : Pair.shift r c ⟨q.row - r, q.column - c⟩ = q := by
        show (⟨r + (q.row - r), c + (q.column - c)⟩ : Pair) = q
        rw [Nat.add_sub_cancel' (Nat.le_of_not_lt hq), Nat.add_sub_cancel' hc]
      have hlast : (p.suffix r c).Matches ⟨q.row - r, q.column - c⟩ := by
        refine matches_shift.1 ?_
        rw [hshift]
        exact matches_iff.2 hv
      refine ⟨c, by omega, front, back ++ [⟨q.row - r, q.column - c⟩], ?_, hcorner, ?_⟩
      · rw [List.map_append, List.map_singleton, hshift, hqs, List.append_assoc]
      · have hbelow : q.row - r < n - r := by omega
        have hbeside : q.column - c < m - c := by omega
        exact hbeyond.snoc (matches_iff.1 hlast) hbelow hbeside

/-! ## §3. Common lengths of the two parts. -/

/-- The common length counts at least what a corner and what is left beyond it have. -/
theorem best_add_suffix_le (p : Problem α β) (r c a b : Nat) :
    p.verdicts.best r c + (p.suffix r c).verdicts.best a b ≤ p.verdicts.best (r + a) (c + b) := by
  have hglued := ((p.isChain_pairs r c).glue ((p.suffix r c).isChain_pairs a b)).length_le_best
  rw [List.length_append, List.length_map, Verdicts.length_pairs, Verdicts.length_pairs] at hglued
  exact hglued

/-- Some corner of the first `r` rows reaches the common length together with what is left. -/
theorem exists_best_split (p : Problem α β) (hr : r ≤ n) (m : Nat) :
    ∃ c ≤ m, p.verdicts.best r c + (p.suffix r c).verdicts.best (n - r) (m - c)
      = p.verdicts.best n m := by
  obtain ⟨c, hc, front, back, hpairs, hfront, hback⟩ := (p.isChain_pairs n m).cut r
  refine ⟨c, hc, Nat.le_antisymm ?_ ?_⟩
  · have hle := p.best_add_suffix_le r c (n - r) (m - c)
    rw [Nat.add_sub_cancel' hr, Nat.add_sub_cancel' hc] at hle
    exact hle
  · calc p.verdicts.best n m
        = (front ++ back.map (Pair.shift r c)).length := by
          rw [← hpairs, Verdicts.length_pairs]
      _ = front.length + back.length := by rw [List.length_append, List.length_map]
      _ ≤ _ := Nat.add_le_add hfront.length_le_best hback.length_le_best

end Problem

/-! ## §4. Grids and lengths. -/

/-- **The length splits at every row.**  It is the greatest sum of a cell of the row and the
length of what is left beyond that cell, as an engine of its own over the two remainders finds
it. -/
theorem length_split {α β : Type} {p : Problem α β} (hl : p.Lawful) (hf : p.Fits) {r : Nat}
    (hr : r ≤ p.rows.size) :
    ∃ g k, p.fill = .ok g ∧ p.length = .ok k
      ∧ ((Engine.ofProblem p).length.run (.fresh () ())).answer = .ok k
      ∧ ∃ corner rest : Nat → Nat,
        (∀ c ≤ p.columns.size, (∃ w : Int32, g.read r c = .ok w ∧ w.toInt = corner c)
          ∧ (p.suffix r c).length = .ok (rest c)
          ∧ ((Engine.ofProblem (p.suffix r c)).length.run (.fresh () ())).answer = .ok (rest c))
        ∧ (∀ c ≤ p.columns.size, corner c + rest c ≤ k)
        ∧ ∃ c ≤ p.columns.size, corner c + rest c = k := by
  obtain ⟨g, hfill, hg⟩ := hl.fill_spec hf
  refine ⟨g, _, hfill, hl.length_eq hf, (Engine.answer_length hf).trans (hl.length_eq hf),
    p.verdicts.best r,
    fun c => (p.suffix r c).verdicts.best (p.rows.size - r) (p.columns.size - c), ?_, ?_,
    p.exists_best_split hr p.columns.size⟩
  · intro c hc
    have hl' := hl.suffix r c
    have hf' := Problem.fits_suffix hf r c
    refine ⟨⟨_, hg.read_eq r (by omega) c (by omega), ?_⟩, hl'.length_eq hf',
      (Engine.answer_length hf').trans (hl'.length_eq hf')⟩
    exact Int32.toInt_ofNat_of_lt (Problem.best_lt_of_fits hf hr hc)
  · intro c hc
    have hle := p.best_add_suffix_le r c (p.rows.size - r) (p.columns.size - c)
    rw [Nat.add_sub_cancel' hr, Nat.add_sub_cancel' hc] at hle
    exact hle

/-- Intervals are compared with points, and the split is behind the first interval. -/
theorem length_split_intervals :
    let p : Problem Agreement.Interval Int :=
      ⟨Indexed.ofList [⟨1, 3⟩, ⟨0, 2⟩, ⟨2, 5⟩], Indexed.ofList [2, 4, 1], Agreement.contains⟩
    p.Lawful ∧ p.Fits ∧ 1 ≤ p.rows.size ∧ ∃ g k, p.fill = .ok g ∧ p.length = .ok k
      ∧ ∃ corner rest : Nat → Nat,
        (∀ c ≤ 3, (∃ w : Int32, g.read 1 c = .ok w ∧ w.toInt = corner c)
          ∧ (p.suffix 1 c).length = .ok (rest c))
        ∧ (∀ c ≤ 3, corner c + rest c ≤ k) ∧ ∃ c ≤ 3, corner c + rest c = k := by
  intro p
  have hlawful : p.Lawful := ⟨Indexed.lawful_ofList _, Indexed.lawful_ofList _⟩
  have hfits : p.Fits := by decide
  have hrow : 1 ≤ p.rows.size := by decide
  obtain ⟨g, k, hfill, hlength, _, corner, rest, hvalues, hbound, hreached⟩ :=
    length_split hlawful hfits hrow
  refine ⟨hlawful, hfits, hrow, g, k, hfill, hlength, corner, rest, ?_, hbound, hreached⟩
  intro c hc
  obtain ⟨hcorner, hrest, _⟩ := hvalues c hc
  exact ⟨hcorner, hrest⟩

end CommonSubsequence
