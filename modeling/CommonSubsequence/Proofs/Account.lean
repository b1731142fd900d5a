/-
  CommonSubsequence.Proofs.Account — the records of a walk account for it.

  Every move says where it starts: a match by its pair, which lies one before the cell in both
  coordinates, the others by the cell itself.  A reader who starts from the bottom right cell and
  follows the kinds of the moves alone (`Move.next`) is always at the cell that the walk has
  reached, so the lines can be foretold (`Move.lines`).

  The books are kept by one invariant: the matches so far and the common length of the corner that
  is left make up the common length of the whole.  A match adds one to the former and takes one off
  the latter; the other moves go to a corner that is worth as much.

  Main results:
    * `Verdicts.trail_cases` — one move of a walk over verdicts.
    * `Verdicts.trail_split` — the balance, wherever a walk is split in two.
    * `Problem.Lawful.balanced` — the same of a walk through a grid, whose moves are connected.
    * `walk_accounted` — the records, the grid and the path of a lawful problem.
-/
import CommonSubsequence.Proofs.Caching
import CommonSubsequence.Proofs.Backtracking

namespace CommonSubsequence

/-! ## §1. Reading the records of a walk. -/

namespace Move

/-- The cell that a move leads to, by its kind alone. -/
def next (cell : Nat × Nat) : Move → Nat × Nat
  | .matched _ => (cell.1 - 1, cell.2 - 1)
  | .left _ _ => (cell.1, cell.2 - 1)
  | .up _ _ => (cell.1 - 1, cell.2)

/-- The line that a move should leave at a cell, by its kind alone. -/
def line (cell : Nat × Nat) : Move → String
  -- positions are counted from zero, and the first row and column of cells stand for none
  | .matched _ => s!"match at ({cell.1 - 1}, {cell.2 - 1})"
  | .left _ _ => s!"left from ({cell.1}, {cell.2})"
  | .up _ _ => s!"up from ({cell.1}, {cell.2})"

/-- The lines that moves should leave, the first one at `start`. -/
def lines : (start : Nat × Nat) → List Move → List String
  | _, [] => []
  | cell, m :: ms => m.line cell :: lines (m.next cell) ms

/-- The cell that moves lead to from `start`. -/
def reached (start : Nat × Nat) (ms : List Move) : Nat × Nat :=
  ms.foldl next start

/-- How many of the moves are matches. -/
def matchCount (ms : List Move) : Nat :=
  (ms.filterMap pair?).length

theorem matchCount_cons (m : Move) (ms : List Move) :
    matchCount (m :: ms) = matchCount [m] + matchCount ms := by
  show ([m] ++ ms |>.filterMap pair?).length = _
  rw [List.filterMap_append, List.length_append]
  rfl

/-- From the cell that a move names it leads where its kind says. -/
theorem target_eq (m : Move) : m.target = m.next m.origin := by
  cases m <;> rfl

/-- At the cell that a move names it leaves the line that its kind says. -/
theorem message_eq (m : Move) : (Record.moved m).message = m.line m.origin := by
  cases m with
  | matched q =>
    show "match at " ++ s!"({q.row}, {q.column})" = s!"match at ({q.row}, {q.column})"
    simp only [← String.append_assoc]
    rfl
  | left row column => rfl
  | up row column => rfl

/-- Connected moves leave the lines that can be foretold. -/
theorem messages_of_connected {start finish : Nat × Nat} {ms : List Move}
    (h : Connected finish start ms) :
    ms.map (fun m => (Record.moved m).message) = lines start ms := by
  induction ms generalizing start with
  | nil => rfl
  | cons m ms ih =>
    obtain ⟨rfl, hrest⟩ := h
    rw [target_eq] at hrest
    show (Record.moved m).message :: _ = m.line m.origin :: _
    rw [message_eq, ih hrest]

/-- Moves that are connected are so up to any point, where they have reached the cell that their
kinds say. -/
theorem Connected.of_append {start finish : Nat × Nat} {done left : List Move}
    (h : Connected finish start (done ++ left)) : Connected (reached start done) start done := by
  induction done generalizing start with
  | nil => rfl
  | cons m done ih =>
    obtain ⟨rfl, hrest⟩ := h
    refine ⟨rfl, ?_⟩
    rw [target_eq] at hrest ⊢
    exact ih hrest

/-- What the books say after the moves `done`, while the moves `left` are still to come. -/
structure Balanced (g : Grid) (start : Nat × Nat) (length : Nat) (done left : List Move) :
    Prop where
  /-- Each move starts from the cell that the one before it leads to. -/
  connected : Connected (reached start done) start done
  /-- The matches so far and the current cell make up the length. -/
  balance : ∃ w, g.read (reached start done).1 (reached start done).2 = .ok w
    ∧ (matchCount done : Int) + w.toInt = length
  /-- The walk ends exactly where a coordinate is zero. -/
  ended : left = [] ↔ (reached start done).1 = 0 ∨ (reached start done).2 = 0

end Move

/-! ## §2. Walks over verdicts. -/

namespace Verdicts

variable {v : Verdicts}

/-- A walk is on the edge, or it makes a move from its cell that keeps the balance. -/
theorem trail_cases (v : Verdicts) (r c : Nat) :
    ((r = 0 ∨ c = 0) ∧ (v.trail r c).moves = [])
      ∨ ∃ m : Move, 0 < r ∧ 0 < c
        ∧ (v.trail r c).moves = m :: (v.trail (m.next (r, c)).1 (m.next (r, c)).2).moves
        ∧ Move.matchCount [m] + v.best (m.next (r, c)).1 (m.next (r, c)).2 = v.best r c := by
  induction r, c using walk_induction v with
  | top c =>
    left
    rw [trail_zero_left]
    exact ⟨Or.inl rfl, rfl⟩
  | side r =>
    left
    rw [trail_zero_right]
    exact ⟨Or.inr rfl, rfl⟩
  | matched i j h _ =>
    right
    refine ⟨.matched ⟨i, j⟩, Nat.succ_pos i, Nat.succ_pos j, ?_, ?_⟩
    · rw [trail_of_match h]
      rfl
    · show 1 + v.best i j = _
      rw [best_of_match h, Nat.add_comm]
  | left i j h hlt _ =>
    right
    refine ⟨.left (i + 1) (j + 1), Nat.succ_pos i, Nat.succ_pos j, ?_, ?_⟩
    · rw [trail_of_left h hlt]
      rfl
    · show 0 + v.best (i + 1) j = _
      rw [best_of_mismatch h]
      omega
  | up i j h hle _ =>
    right
    refine ⟨.up (i + 1) (j + 1), Nat.succ_pos i, Nat.succ_pos j, ?_, ?_⟩
    · rw [trail_of_up h hle]
      rfl
    · show 0 + v.best i (j + 1) = _
      rw [best_of_mismatch h]
      omega

/-- A walk is over exactly on the edge. -/
theorem moves_eq_nil_iff (v : Verdicts) (r c : Nat) :
    (v.trail r c).moves = [] ↔ r = 0 ∨ c = 0 := by
  rcases v.trail_cases r c with ⟨hedge, hmoves⟩ | ⟨m, hr, hc, hmoves, _⟩
  · simp [hedge, hmoves]
  · have hinside : ¬ (r = 0 ∨ c = 0) := by omega
    simp [hinside, hmoves]

/-- Wherever a walk is split in two, the rest is the walk from the cell that was reached, and
nothing is lost from the balance. -/
theorem trail_split {r c r' c' : Nat} {done left : List Move}
    (h : (v.trail r c).moves = done ++ left) (hcell : Move.reached (r, c) done = (r', c')) :
    r' ≤ r ∧ c' ≤ c ∧ left = (v.trail r' c').moves
      ∧ Move.matchCount done + v.best r' c' = v.best r c := by
  -- the moves made so far lead on from the cell that the first of them leads to
  induction done generalizing r c with
  | nil =>
    obtain ⟨rfl, rfl⟩ := Prod.mk.inj hcell
    exact ⟨Nat.le_refl _, Nat.le_refl _, h.symm, Nat.zero_add _⟩
  | cons m done ih =>
    rcases v.trail_cases r c with ⟨_, hmoves⟩ | ⟨m', hr, hc, hmoves, hbalance⟩
    · rw [hmoves] at h
      cases h
    · rw [hmoves] at h
      obtain ⟨rfl, hrest⟩ := List.cons.inj h
      obtain ⟨hr', hc', hleft, hcount⟩ := ih hrest hcell
      have hshrinks : (m'.next (r, c)).1 ≤ r ∧ (m'.next (r, c)).2 ≤ c := by
        cases m' <;> exact ⟨by simp [Move.next], by simp [Move.next]⟩
      refine ⟨Nat.le_trans hr' hshrinks.1, Nat.le_trans hc' hshrinks.2, hleft, ?_⟩
      rw [Move.matchCount_cons, Nat.add_assoc, hcount, hbalance]

/-- Every move takes one off a coordinate, and no more than one off both. -/
theorem length_moves (v : Verdicts) (r c : Nat) :
    min r c ≤ (v.trail r c).moves.length ∧ (v.trail r c).moves.length ≤ r + c := by
  induction r, c using walk_induction v with
  | top c =>
    rw [trail_zero_left]
    exact ⟨Nat.min_le_left 0 c, Nat.zero_le _⟩
  | side r =>
    rw [trail_zero_right]
    exact ⟨Nat.min_le_right r 0, Nat.zero_le _⟩
  | matched i j h ih =>
    rw [trail_of_match h]
    show _ ≤ (v.trail i j).moves.length + 1 ∧ (v.trail i j).moves.length + 1 ≤ _
    omega
  | left i j h hlt ih =>
    rw [trail_of_left h hlt]
    show _ ≤ (v.trail (i + 1) j).moves.length + 1 ∧ (v.trail (i + 1) j).moves.length + 1 ≤ _
    omega
  | up i j h hle ih =>
    rw [trail_of_up h hle]
    show _ ≤ (v.trail i (j + 1)).moves.length + 1 ∧ (v.trail i (j + 1)).moves.length + 1 ≤ _
    omega

/-- A walk over verdicts records its moves and then the common length of its corner. -/
theorem records_trail (v : Verdicts) (r c : Nat) :
    (v.trail r c).records = (v.trail r c).moves.map .moved ++ [.pathFound (v.best r c)] := by
  unfold Trail.records
  rw [halt_trail, ← length_pairs]
  rfl

end Verdicts

/-! ## §3. Walks over a stored grid. -/

namespace Problem

variable {α β : Type} {p : Problem α β} {g : Grid}

/-- A lawful problem, its grid being stored, is walked without a fault and stores nothing. -/
theorem Lawful.run_backtrack_of_stored (hl : p.Lawful) (hf : p.Fits) (hfill : p.fill = .ok g)
    (hg : g.Holds (p.rows.size + 1) (p.columns.size + 1) p.verdicts.best)
    {memo : Memo Unit Unit} (hmemo : memo.grid = some g) :
    (Engine.ofProblem p).backtrack.run memo
      = ⟨.ok ⟨p.verdicts.pairs p.rows.size p.columns.size⟩, memo,
        ((p.verdicts.trail p.rows.size p.columns.size).moves.map Record.moved
          ++ [Record.pathFound (p.verdicts.best p.rows.size p.columns.size)]).map Entry.own⟩ := by
  have hfilled : p.Filled g _ := ⟨hfill, corner_of_holds hg, hg.rows_eq, hg.columns_eq⟩
  obtain ⟨hvisited, hlog⟩ := Engine.visited_of_stored hmemo true
  rw [Engine.run_backtrack hfilled (Or.inr hmemo), hvisited, hlog, Engine.walkLog,
    hl.backtrack_eq hf hg, path_trail, Verdicts.records_trail]
  rfl

/-- The books of the walk through the finished grid balance wherever it is split. -/
theorem Lawful.balanced (hl : p.Lawful) (hf : p.Fits)
    (hg : g.Holds (p.rows.size + 1) (p.columns.size + 1) p.verdicts.best)
    {done left : List Move}
    (h : (p.verdicts.trail p.rows.size p.columns.size).moves = done ++ left) :
    Move.Balanced g (p.rows.size, p.columns.size)
      (p.verdicts.best p.rows.size p.columns.size) done left := by
  obtain ⟨hr, hc, hleft, hcount⟩ := Verdicts.trail_split h (Prod.eta _).symm
  -- the walk through the grid makes the same moves, and they are connected
  obtain ⟨finish, hconnected, _⟩ := p.connected_walk g p.rows.size p.columns.size
  rw [show p.walk g _ _ = _ from hl.backtrack_eq hf hg, h] at hconnected
  refine ⟨hconnected.of_append, ⟨_, hg.read_eq _ (by omega) _ (by omega), ?_⟩, ?_⟩
  · -- the cell is small enough to hold the common length as it is
    rw [Int32.toInt_ofNat_of_lt (best_lt_of_fits hf hr hc), ← hcount]
    exact (Int.natCast_add _ _).symm
  · rw [hleft]
    exact Verdicts.moves_eq_nil_iff _ _ _

end Problem

/-! ## §4. The account. -/

/-- **The records of a walk account for it.**  Over the stored grid of a lawful problem the walk
finds its path, changes nothing, and records its moves and, last, the number of its pairs.  The
lines are those that a reader foretells who starts from the bottom right cell; the matches, in
reverse, are the path; and wherever the walk is split, its moves so far are connected, the matches
so far and the current cell make up the length, and no move is left exactly on the edge. -/
theorem walk_accounted {α β : Type} (p : Problem α β) (hl : p.Lawful) (hf : p.Fits) :
    ∃ (g : Grid) (length : Nat) (moves : List Move) (path : Path) (log : List Entry),
      p.fill = .ok g ∧ p.length = .ok length
        ∧ (∀ memo : Memo Unit Unit, memo.grid = some g →
          (Engine.ofProblem p).backtrack.run memo = ⟨.ok path, memo, log⟩)
        ∧ log = (moves.map Record.moved ++ [Record.pathFound length]).map Entry.own
        ∧ log.map (fun e => (e.record.level, e.record.message))
          = (Move.lines (p.rows.size, p.columns.size) moves).map (Level.trace, ·)
            ++ [(.debug, s!"reconstructed LCS path of {length} pairs")]
        ∧ path.pairs = (moves.filterMap Move.pair?).reverse
        ∧ path.pairs.length = length
        ∧ min p.rows.size p.columns.size ≤ moves.length
        ∧ moves.length ≤ p.rows.size + p.columns.size
        ∧ ∀ done left, moves = done ++ left →
          Move.Balanced g (p.rows.size, p.columns.size) length done left := by
  obtain ⟨g, hfill, hg⟩ := hl.fill_spec hf
  obtain ⟨hleast, hmost⟩ := p.verdicts.length_moves p.rows.size p.columns.size
  refine ⟨g, _, _, _, _, hfill, hl.length_eq hf,
    fun memo hmemo => hl.run_backtrack_of_stored hf hfill hg hmemo, rfl, ?_, rfl,
    p.verdicts.length_pairs _ _, hleast, hmost,
    fun done left hsplit => hl.balanced hf hg hsplit⟩
  have hconnected := (hl.balanced hf hg (List.append_nil _).symm).connected
  rw [← Move.messages_of_connected hconnected, List.map_map, List.map_append, List.map_map,
    List.map_map]
  rfl

/-- Two longest common subsequences, of which the walk finds one. -/
theorem walk_accounted_tie :
    let p := Problem.ofStrings "ACADB" "CBDA"
    p.Lawful ∧ p.Fits ∧ ∃ (g : Grid) (length : Nat) (moves : List Move) (path : Path),
      p.fill = .ok g ∧ p.length = .ok length
        ∧ path.pairs = (moves.filterMap Move.pair?).reverse ∧ path.pairs.length = length
        ∧ ∀ done left, moves = done ++ left →
          Move.Balanced g (p.rows.size, p.columns.size) length done left := by
  intro p
  have hlawful : p.Lawful := Problem.lawful_ofStrings _ _
  have hfits : p.Fits := Problem.fits_ofStrings (by decide)
  obtain ⟨g, length, moves, path, _, hfill, hlength, _, _, _, hpairs, hcount, _, _, hbalanced⟩ :=
    walk_accounted p hlawful hfits
  exact ⟨hlawful, hfits, g, length, moves, path, hfill, hlength, hpairs, hcount, hbalanced⟩

end CommonSubsequence
