/-
  CommonSubsequence.Proofs.Holes — sequences whose elements are missing below their size.

  The grid is filled up to the first hole of either sequence and stays zero beyond, while the walk
  starts from the declared sizes.  It may therefore cross cells that obey no recurrence, and find
  matches where the grid has none.  Two things hold nevertheless.  A turn reads cells only inside
  the grid, so the walk is cut short by a missing element and by nothing else; and whatever pair
  it records has just been compared, so the pairs are a chain of matches.

  Main results:
    * `Problem.turn_cases` — everything one turn can do.
    * `Problem.isChain_walk` — the recorded pairs are a chain, whatever the grid holds.
    * `Problem.halt_walk` — the cell at which a walk is cut short, and the fault.
    * `holes_spec` — grid, length and walk of any problem of allocatable shape.
-/
import CommonSubsequence.Proofs.Alike

namespace CommonSubsequence

namespace Problem

variable {α β : Type} {p : Problem α β} {g : Grid} {i j : Nat}

/-! ## §1. One turn. -/

/-- The elements at a pair cannot both be read, and this is the fault of reading the row element
before the column element. -/
def ReadFault (p : Problem α β) (q : Pair) (f : Fault) : Prop :=
  (p.rows.get? q.row = none ∧ f = .indexOutOfRange q.row p.rows.size)
    ∨ ((p.rows.get? q.row).isSome ∧ p.columns.get? q.column = none
      ∧ f = .indexOutOfRange q.column p.columns.size)

/-- A turn fails on a missing element, follows a match, or looks at the neighbouring cells. -/
theorem turn_cases (p : Problem α β) (g : Grid) (i j : Nat) :
    (∃ f, p.ReadFault ⟨i, j⟩ f ∧ p.turn g i j = .error f)
      ∨ (p.verdicts i j = true ∧ p.turn g i j = .ok .diagonal)
      ∨ (p.verdicts i j = false ∧ p.turn g i j = turnAside g i j) := by
  cases hx : p.rows.get? i with
  | none => exact Or.inl ⟨_, Or.inl ⟨hx, rfl⟩, turn_of_row_none hx⟩
  | some x =>
    cases hy : p.columns.get? j with
    | none =>
      have hsome : (p.rows.get? i).isSome := by rw [hx]; rfl
      exact Or.inl ⟨_, Or.inr ⟨hsome, hy, rfl⟩, turn_of_column_none hx hy⟩
    | some y =>
      have hturn := turn_of_get? (g := g) hx hy
      cases hv : p.verdicts i j with
      | true =>
        rw [hv, if_pos rfl] at hturn
        exact Or.inr (Or.inl ⟨rfl, hturn⟩)
      | false =>
        rw [hv, if_neg Bool.false_ne_true] at hturn
        exact Or.inr (Or.inr ⟨rfl, hturn⟩)

/-- Looking aside never leads along the diagonal. -/
theorem turnAside_ne_diagonal (g : Grid) (i j : Nat) : turnAside g i j ≠ .ok .diagonal := by
  unfold turnAside
  cases g.read i (j + 1) with
  | error f => exact fun h => by cases h
  | ok above =>
    cases g.read (i + 1) j with
    | error f => exact fun h => by cases h
    | ok beside =>
      show (Except.ok (if above < beside then Turn.left else Turn.up)) ≠ .ok .diagonal
      split <;> exact fun h => by cases h

/-- Inside the grid both neighbouring cells can be read. -/
theorem turnAside_of_holds {rows columns : Nat} {f : Nat → Nat → Nat}
    (h : g.Holds rows columns f) (hi : i + 1 < rows) (hj : j + 1 < columns) :
    ∃ t, turnAside g i j = .ok t := by
  unfold turnAside
  rw [h.read_eq i (by omega) (j + 1) hj, h.read_eq (i + 1) hi j (by omega)]
  exact ⟨_, rfl⟩

/-- Only a match leads along the diagonal. -/
theorem verdicts_of_turn_diagonal (h : p.turn g i j = .ok .diagonal) : p.verdicts i j = true := by
  rcases p.turn_cases g i j with ⟨f, _, hturn⟩ | ⟨hv, _⟩ | ⟨_, hturn⟩
  · rw [hturn] at h
    cases h
  · exact hv
  · exact absurd (hturn.symm.trans h) (turnAside_ne_diagonal g i j)

/-- Inside the grid a turn can only fail for want of an element. -/
theorem readFault_of_turn_error {rows columns : Nat} {f : Fault} {k : Nat → Nat → Nat}
    (hg : g.Holds rows columns k) (hi : i + 1 < rows) (hj : j + 1 < columns)
    (h : p.turn g i j = .error f) : p.ReadFault ⟨i, j⟩ f := by
  rcases p.turn_cases g i j with ⟨f', hfault, hturn⟩ | ⟨_, hturn⟩ | ⟨_, hturn⟩
  · rw [hturn, Except.error.injEq] at h
    exact h ▸ hfault
  · rw [hturn] at h
    cases h
  · obtain ⟨t, ht⟩ := turnAside_of_holds hg hi hj
    rw [hturn, ht] at h
    cases h

/-! ## §2. Whole walks. -/

theorem pairs_after_matched (q : Pair) (t : Trail) :
    (t.after (.matched q)).pairs = t.pairs ++ [q] :=
  List.reverse_cons

/-- Whatever the grid holds, the recorded pairs are a chain of matches: each of them was compared
when it was recorded. -/
theorem isChain_walk (p : Problem α β) (g : Grid) (r c : Nat) :
    p.IsChain r c (p.walk g r c).pairs := by
  fun_induction walk p g r c with
  | case1 c => exact p.isChain_nil 0 c
  | case2 i => exact p.isChain_nil (i + 1) 0
  | case3 i j hturn ih =>
    rw [pairs_after_matched]
    exact ih.snoc (verdicts_of_turn_diagonal hturn) (Nat.lt_succ_self i) (Nat.lt_succ_self j)
  | case4 i j _ ih => exact ih.mono (Nat.le_refl _) (Nat.le_succ j)
  | case5 i j _ ih => exact ih.mono (Nat.le_succ i) (Nat.le_refl _)
  | case6 i j f _ => exact p.isChain_nil (i + 1) (j + 1)

/-- A walk inside the grid is cut short only at a cell whose elements cannot both be read, and by
the fault of reading them. -/
theorem halt_walk {rows columns : Nat} {k : Nat → Nat → Nat} (hg : g.Holds rows columns k)
    {r c : Nat} (hr : r < rows) (hc : c < columns) {f : Fault}
    (h : (p.walk g r c).halt = some f) :
    ∃ q : Pair, q.row < r ∧ q.column < c ∧ p.ReadFault q f
      ∧ Move.Connected (q.row + 1, q.column + 1) (r, c) (p.walk g r c).moves := by
  obtain ⟨finish, hconnected, hrow, hcolumn, hhalt⟩ := p.connected_walk g r c
  obtain ⟨i, j, rfl, hturn⟩ := hhalt f h
  have hfault := readFault_of_turn_error hg (Nat.lt_of_le_of_lt hrow hr)
    (Nat.lt_of_le_of_lt hcolumn hc) hturn
  exact ⟨⟨i, j⟩, hrow, hcolumn, hfault, hconnected⟩

/-! ## §3. Cells in front of and beyond the holes. -/

/-- A cell is an optimum if neither sequence has a hole in front of it, and zero otherwise. -/
theorem cell_spec (p : Problem α β) (r c : Nat) :
    if r ≤ p.rows.firstHole ∧ c ≤ p.columns.firstHole then p.IsOptimum r c (p.cell r c)
    else p.cell r c = 0 := by
  unfold cell
  rw [Indexed.length_items, Indexed.length_items]
  split
  · exact p.isOptimum_best r c
  · rfl

/-- If the grid fits, all its numbers are small enough for the cells. -/
theorem cell_lt_of_fits (hf : p.Fits) {r c : Nat} (hr : r ≤ p.rows.size)
    (hc : c ≤ p.columns.size) : p.cell r c < 2147483648 :=
  Nat.lt_of_le_of_lt (p.cell_le_best r c) (best_lt_of_fits hf hr hc)

/-- A hole anywhere leaves the corner at zero. -/
theorem corner_cell_of_hole
    (h : p.rows.firstHole < p.rows.size ∨ p.columns.firstHole < p.columns.size) :
    p.cell p.rows.size p.columns.size = 0 := by
  have hcell := p.cell_spec p.rows.size p.columns.size
  rw [if_neg (by omega)] at hcell
  exact hcell

end Problem

/-! ## §4. Any two sequences. -/

/-- **Sequences with holes.**  The grid is computed without a fault; a cell is the optimum of its
corner up to the first holes and zero beyond, so the length is zero if there is a hole at all.
The walk finds a chain of matches, or it is abandoned at a cell whose elements cannot both be
read, with the fault of the row element if that one is missing and of the column element
otherwise.  Elements at or past the sizes change none of this. -/
theorem holes_spec {α β : Type} {p : Problem α β} (hf : p.Fits) :
    ∃ g, p.fill = .ok g ∧ g.rows = p.rows.size + 1 ∧ g.columns = p.columns.size + 1
      ∧ (∀ r ≤ p.rows.size, ∀ c ≤ p.columns.size,
        ∃ (w : Int32) (k : Nat), g.read r c = .ok w ∧ w.toInt = k
          ∧ if r ≤ p.rows.firstHole ∧ c ≤ p.columns.firstHole then p.IsOptimum r c k else k = 0)
      ∧ (p.rows.firstHole < p.rows.size ∨ p.columns.firstHole < p.columns.size →
        p.length = .ok 0 ∧ ((Engine.ofProblem p).length.run (.fresh () ())).answer = .ok 0)
      ∧ ((∃ path, ((Engine.ofProblem p).backtrack.run (.fresh () ())).answer = .ok path
          ∧ Pair.Ascending path.pairs
          ∧ ∀ q ∈ path.pairs, q.row < p.rows.size ∧ q.column < p.columns.size ∧ p.Matches q)
        ∨ ∃ f q, ((Engine.ofProblem p).backtrack.run (.fresh () ())).answer = .error f
          ∧ q.row < p.rows.size ∧ q.column < p.columns.size ∧ p.ReadFault q f
          ∧ Move.Connected (q.row + 1, q.column + 1) (p.rows.size, p.columns.size)
            (p.backtrack g).moves)
      ∧ ∀ p' : Problem α β, p'.rows.size = p.rows.size → p'.columns.size = p.columns.size →
        (∀ i < p.rows.size, p'.rows.get? i = p.rows.get? i) →
        (∀ j < p.columns.size, p'.columns.get? j = p.columns.get? j) → p'.agree = p.agree →
          p'.fill = .ok g ∧ p'.length = p.length ∧ p'.backtrack g = p.backtrack g
            ∧ p'.path = p.path := by
  obtain ⟨g, hfill, hg⟩ := Problem.fill_spec hf
  have hcorner := Problem.corner_of_cell hg
  refine ⟨g, hfill, hg.rows_eq, hg.columns_eq, ?_, ?_, ?_, ?_⟩
  · intro r hr c hc
    refine ⟨_, _, hg.read_eq r (by omega) c (by omega), ?_, p.cell_spec r c⟩
    exact Int32.toInt_ofNat_of_lt (Problem.cell_lt_of_fits hf hr hc)
  · intro hhole
    rw [Problem.corner_cell_of_hole hhole] at hcorner
    exact ⟨Problem.length_of_corner hfill hcorner, Engine.answer_length_fresh hfill hcorner⟩
  · rw [Engine.answer_backtrack_fresh hfill hcorner]
    have hchain := p.isChain_walk g p.rows.size p.columns.size
    cases hhalt : (p.backtrack g).halt with
    | none =>
      refine Or.inl ⟨_, Trail.path_of_halt_none hhalt, hchain.ascending, ?_⟩
      intro q hq
      obtain ⟨hrow, hcolumn⟩ := hchain.inside q hq
      exact ⟨hrow, hcolumn, hchain.matching q hq⟩
    | some f =>
      obtain ⟨q, hrow, hcolumn, hfault, hconnected⟩ :=
        Problem.halt_walk hg (Nat.lt_succ_self _) (Nat.lt_succ_self _) hhalt
      exact Or.inr ⟨f, q, Trail.path_of_halt_some hhalt, hrow, hcolumn, hfault, hconnected⟩
  · intro p' hrows hcolumns hrow hcolumn hagree
    obtain ⟨rows', columns', agree'⟩ := p'
    subst hagree
    have halike : p.Alike ⟨rows', columns', p.agree⟩ :=
      Problem.alike_of_get? hrows hcolumns hrow hcolumn
    exact ⟨(halike.fill_eq hf).symm.trans hfill, (halike.length_eq hf).symm,
      (halike.backtrack_eq g).symm, (halike.path_eq hf).symm⟩

/-- Beyond its hole the first sequence has an element that the walk would match, and the second
one answers past its size. -/
theorem holes_spec_sparse :
    let p : Problem Int Int :=
      ⟨Indexed.ofSlots 3 #[some 1, none, some 2], Indexed.ofSlots 2 #[some 2, some 1, some 1],
        Agreement.exact⟩
    p.Fits ∧ p.rows.firstHole = 1 ∧ p.columns.firstHole = 2 ∧ p.length = .ok 0
      ∧ ((∃ path, ((Engine.ofProblem p).backtrack.run (.fresh () ())).answer = .ok path
          ∧ Pair.Ascending path.pairs)
        ∨ ∃ f q, ((Engine.ofProblem p).backtrack.run (.fresh () ())).answer = .error f
          ∧ p.ReadFault q f) := by
  intro p
  have hfits : p.Fits := by decide
  have hhole : p.rows.firstHole < p.rows.size := by decide
  obtain ⟨g, _, _, _, _, hlength, hwalk, _⟩ := holes_spec hfits
  refine ⟨hfits, by decide, by decide, (hlength (Or.inl hhole)).1, ?_⟩
  rcases hwalk with ⟨path, hpath, hasc, _⟩ | ⟨f, q, hf, _, _, hfault, _⟩
  · exact Or.inl ⟨path, hpath, hasc⟩
  · exact Or.inr ⟨f, q, hf, hfault⟩

end CommonSubsequence
