/-
  CommonSubsequence.Alignment.Walk — from the grid back to the matched pairs.

  The walk starts at the bottom right cell and ends on the top or left edge.  At a cell whose two
  elements match it records the pair and goes to the diagonal neighbour.  Elsewhere it goes left
  if the cell above holds less than the cell to the left, and up otherwise: ties go up, and this
  rule alone decides which of several longest common subsequences is found.
-/
import CommonSubsequence.Alignment.Table

namespace CommonSubsequence

variable {α β : Type}

/-! ## §1. Moves and trails. -/

/-- Where the walk goes next. -/
inductive Turn where
  | diagonal
  | left
  | up
deriving DecidableEq, Repr

/-- One move of the walk: a matched pair, or the cell that was left without a match. -/
inductive Move where
  /-- The elements at the pair match. -/
  | matched (pair : Pair)
  /-- From this cell to the left. -/
  | left (row column : Nat)
  /-- From this cell upwards. -/
  | up (row column : Nat)
deriving DecidableEq, Repr

/-- The pair that a move records. -/
def Move.pair? : Move → Option Pair
  | .matched q => some q
  | .left _ _ => none
  | .up _ _ => none

/-- The cell that a move starts from. -/
def Move.origin : Move → Nat × Nat
  | .matched q => (q.row + 1, q.column + 1)
  | .left row column => (row, column)
  | .up row column => (row, column)

/-- The cell that a move leads to. -/
def Move.target : Move → Nat × Nat
  | .matched q => (q.row, q.column)
  | .left row column => (row, column - 1)
  | .up row column => (row - 1, column)

/-- Each move starts from the cell that the one before it leads to, the first one from `start`, and
the last one leads to `finish`. -/
def Move.Connected (finish : Nat × Nat) : (start : Nat × Nat) → List Move → Prop
  | start, [] => start = finish
  | start, m :: ms => m.origin = start ∧ Connected finish m.target ms

/-- The moves of a walk in order, and the fault that cut it short, if one did. -/
structure Trail where
  /-- The moves, from the bottom right cell on. -/
  moves : List Move
  /-- What stopped the walk before the edge. -/
  halt : Option Fault
deriving DecidableEq, Repr

namespace Trail

/-- The walk has reached the edge. -/
def done : Trail := ⟨[], none⟩

/-- The walk cannot go on. -/
def halted (f : Fault) : Trail := ⟨[], some f⟩

/-- One more move in front. -/
def after (m : Move) (t : Trail) : Trail := { t with moves := m :: t.moves }

/-- The recorded pairs, earliest first. -/
def pairs (t : Trail) : List Pair :=
  (t.moves.filterMap Move.pair?).reverse

/-- The path of a walk that reached the edge. -/
def path (t : Trail) : Except Fault Path :=
  match t.halt with
  | none => .ok ⟨t.pairs⟩
  | some f => .error f

/-- The path of a walk that was not cut short is made of the pairs that it recorded. -/
theorem path_of_halt_none {t : Trail} (h : t.halt = none) : t.path = .ok ⟨t.pairs⟩ := by
  unfold path
  rw [h]

/-- A walk that was cut short has no path, but the fault that did it. -/
theorem path_of_halt_some {t : Trail} {f : Fault} (h : t.halt = some f) : t.path = .error f := by
  unfold path
  rw [h]

/-- Only a walk that reached the edge has a path. -/
theorem halt_of_path_ok {t : Trail} {q : Path} (h : t.path = .ok q) : t.halt = none := by
  cases hhalt : t.halt with
  | none => rfl
  | some f =>
    rw [path_of_halt_some hhalt] at h
    cases h

/-- Only a walk that was cut short has a fault, and it is the one that did it. -/
theorem halt_of_path_error {t : Trail} {f : Fault} (h : t.path = .error f) :
    t.halt = some f := by
  cases hhalt : t.halt with
  | none =>
    rw [path_of_halt_none hhalt] at h
    cases h
  | some f' =>
    rw [path_of_halt_some hhalt, Except.error.injEq] at h
    rw [h]

end Trail

/-! ## §2. The walk. -/

namespace Problem

/-- Where to go from cell `(i + 1, j + 1)`.  The row element is read before the column element. -/
def turn (p : Problem α β) (g : Grid) (i j : Nat) : Except Fault Turn := do
  let x ← p.rows.read i
  let y ← p.columns.read j
  if p.agree x y then
    pure .diagonal
  else
    let above ← g.read i (j + 1)
    let beside ← g.read (i + 1) j
    pure (if above < beside then .left else .up)

/-- The walk from a cell to the edge. -/
def walk (p : Problem α β) (g : Grid) : (row column : Nat) → Trail
  | 0, _ => .done
  | _ + 1, 0 => .done
  | i + 1, j + 1 =>
    match p.turn g i j with
    | .ok .diagonal => (walk p g i j).after (.matched ⟨i, j⟩)
    | .ok .left => (walk p g (i + 1) j).after (.left (i + 1) (j + 1))
    | .ok .up => (walk p g i (j + 1)).after (.up (i + 1) (j + 1))
    | .error f => .halted f
termination_by row column => row + column

/-- The walk from the bottom right cell, wherever the declared sizes put it. -/
def backtrack (p : Problem α β) (g : Grid) : Trail :=
  p.walk g p.rows.size p.columns.size

/-! ## §3. First facts. -/

/-- On the top edge the walk is over. -/
theorem walk_zero_left (p : Problem α β) (g : Grid) (column : Nat) :
    p.walk g 0 column = .done := by
  rw [walk]

theorem walk_zero_right (p : Problem α β) (g : Grid) (row : Nat) :
    p.walk g row 0 = .done := by
  cases row <;> rw [walk]

/-- The moves of a walk are connected, and never lead down or to the right.  If the walk is cut
short, they lead to the cell whose turn has failed. -/
theorem connected_walk (p : Problem α β) (g : Grid) (row column : Nat) :
    ∃ finish : Nat × Nat, Move.Connected finish (row, column) (p.walk g row column).moves
      ∧ finish.1 ≤ row ∧ finish.2 ≤ column
      ∧ ∀ f, (p.walk g row column).halt = some f →
        ∃ i j, finish = (i + 1, j + 1) ∧ p.turn g i j = .error f := by
  -- a walk ends where what is left of it after its first move ends
  fun_induction walk p g row column with
  | case1 column => exact ⟨_, rfl, Nat.le_refl _, Nat.le_refl _, fun f h => by cases h⟩
  | case2 i => exact ⟨_, rfl, Nat.le_refl _, Nat.le_refl _, fun f h => by cases h⟩
  | case3 i j _ ih =>
    obtain ⟨finish, hconnected, hrow, hcolumn, hhalt⟩ := ih
    exact ⟨finish, ⟨rfl, hconnected⟩, by omega, by omega, hhalt⟩
  | case4 i j _ ih =>
    obtain ⟨finish, hconnected, hrow, hcolumn, hhalt⟩ := ih
    exact ⟨finish, ⟨rfl, hconnected⟩, by omega, by omega, hhalt⟩
  | case5 i j _ ih =>
    obtain ⟨finish, hconnected, hrow, hcolumn, hhalt⟩ := ih
    exact ⟨finish, ⟨rfl, hconnected⟩, by omega, by omega, hhalt⟩
  | case6 i j f hturn =>
    refine ⟨_, rfl, Nat.le_refl _, Nat.le_refl _, ?_⟩
    intro f' h
    obtain rfl : f = f' := Option.some.inj h
    exact ⟨i, j, rfl, hturn⟩

/-! ## §4. From the problem to the path. -/

/-- The pairs of a longest common subsequence. -/
def path (p : Problem α β) : Except Fault Path := do
  let g ← p.fill
  (p.backtrack g).path

end Problem

end CommonSubsequence
