/-
  CommonSubsequence.Indexed.Cursor — reading a sequence from both of its ends.

  A cursor is the interval of positions that are still to come.  Each read takes one position off
  an end of the interval, whether or not an element is found there, so no position is read twice
  and a spent cursor stays spent.  The position is gone even when nothing was found at it: a
  `none` from a hole is not the end of the sequence.
-/
import CommonSubsequence.Indexed.Basic

namespace CommonSubsequence

universe u
variable {α : Type u}

/-! ## §1. The interval. -/

/-- The positions from `front` up to, and without, `back`. -/
structure Cursor where
  /-- The next position to read from the front. -/
  front : Nat
  /-- One past the next position to read from the back. -/
  back : Nat
deriving DecidableEq, Repr, Inhabited

namespace Cursor

/-- The cursor that has all of the sequence before it. -/
def start (s : Indexed α) : Cursor := ⟨0, s.size⟩

/-- How many positions are still to come. -/
def remaining (c : Cursor) : Nat := c.back - c.front

/-! ## §2. Single reads. -/

/-- Take the first position and read it. -/
def next (s : Indexed α) (c : Cursor) : Option α × Cursor :=
  if c.front < c.back then (s.get? c.front, { c with front := c.front + 1 }) else (none, c)

/-- Take the last position and read it. -/
def nextBack (s : Indexed α) (c : Cursor) : Option α × Cursor :=
  if c.front < c.back then (s.get? (c.back - 1), { c with back := c.back - 1 }) else (none, c)

/-! ## §3. Repeated reads. -/

/-- Which end of the interval a read works on. -/
inductive End where
  | front
  | back
deriving DecidableEq, Repr

/-- One read at the given end. -/
def pop (s : Indexed α) : End → Cursor → Option α × Cursor
  | .front, c => c.next s
  | .back, c => c.nextBack s

/-- Pass over `n` elements and read the one after them; a read that finds nothing ends it. -/
def nth (s : Indexed α) (e : End) : Nat → Cursor → Option α × Cursor
  | 0, c => c.pop s e
  | n + 1, c =>
    match c.pop s e with
    | (none, c') => (none, c')
    | (some _, c') => nth s e n c'

/-- At most `n` reads, up to the first that finds nothing. -/
def take (s : Indexed α) (e : End) : Nat → Cursor → List α × Cursor
  | 0, c => ([], c)
  | n + 1, c =>
    match c.pop s e with
    | (none, c') => ([], c')
    | (some x, c') =>
      let (xs, c'') := take s e n c'
      (x :: xs, c'')

/-- Read until nothing is found.  No more reads than there are positions can find something. -/
def drain (s : Indexed α) (e : End) (c : Cursor) : List α × Cursor :=
  take s e c.remaining c

/-! ## §4. Moves and what they answer. -/

/-- One thing to ask of a cursor. -/
inductive Move where
  /-- Read at an end. -/
  | pop (e : End)
  /-- How many positions are still to come? -/
  | remaining
  /-- The bounds on what is still to come: the exact number, twice. -/
  | bounds
  /-- Read at an end until nothing is found. -/
  | drain (e : End)
  /-- Drain from the front and count. -/
  | count
  /-- Drain from the front and keep the last element. -/
  | last
  /-- Pass over `n` elements at an end and read one. -/
  | nth (e : End) (n : Nat)
deriving DecidableEq, Repr

/-- What a move answers. -/
inductive Answer (α : Type u) where
  | element (x : Option α)
  | number (n : Nat)
  | bounds (low high : Nat)
  | elements (xs : List α)
deriving DecidableEq, Repr

/-- Carry out one move. -/
def step (s : Indexed α) (c : Cursor) : Move → Answer α × Cursor
  | .pop e => let (x, c') := c.pop s e; (.element x, c')
  | .remaining => (.number c.remaining, c)
  | .bounds => (.bounds c.remaining c.remaining, c)
  | .drain e => let (xs, c') := c.drain s e; (.elements xs, c')
  | .count => let (xs, c') := c.drain s .front; (.number xs.length, c')
  | .last => let (xs, c') := c.drain s .front; (.element xs.getLast?, c')
  | .nth e n => let (x, c') := c.nth s e n; (.element x, c')

/-- Carry out moves in order: their answers, and where the cursor ends up. -/
def run (s : Indexed α) : List Move → Cursor → List (Answer α) × Cursor
  | [], c => ([], c)
  | m :: ms, c =>
    let (a, c') := c.step s m
    let (as, c'') := run s ms c'
    (a :: as, c'')

/-! ## §5. First facts. -/

@[simp] theorem remaining_start (s : Indexed α) : (start s).remaining = s.size := rfl

theorem next_of_lt {s : Indexed α} {c : Cursor} (h : c.front < c.back) :
    c.next s = (s.get? c.front, ⟨c.front + 1, c.back⟩) := by
  simp [next, h]

theorem nextBack_of_lt {s : Indexed α} {c : Cursor} (h : c.front < c.back) :
    c.nextBack s = (s.get? (c.back - 1), ⟨c.front, c.back - 1⟩) := by
  simp [nextBack, h]

/-- A spent cursor finds nothing and stays where it is. -/
theorem pop_of_spent {s : Indexed α} {e : End} {c : Cursor} (h : c.back ≤ c.front) :
    c.pop s e = (none, c) := by
  cases e <;> simp [pop, next, nextBack, Nat.not_lt.2 h]

/-! ## §6. What draining finds. -/

variable {s : Indexed α} {i n : Nat}

/-- Draining from the front is reading in order. -/
theorem take_front : (take s .front n ⟨i, i + n⟩).1 = s.itemsFrom n i := by
  induction n generalizing i with
  | zero => rfl
  | succ n ih =>
    have hnext : pop s .front ⟨i, i + (n + 1)⟩ = (s.get? i, ⟨i + 1, i + 1 + n⟩) := by
      show next s _ = _
      rw [next_of_lt (by simp), Nat.add_right_comm]
      rfl
    unfold take Indexed.itemsFrom
    rw [hnext]
    cases s.get? i with
    | none => rfl
    | some x =>
      show x :: (take s .front n ⟨i + 1, i + 1 + n⟩).1 = _
      rw [ih]

/-- Draining from the back, without a hole in the way, takes the last position first. -/
theorem take_back (h : ∀ j < n, (s.get? (i + j)).isSome) :
    (take s .back n ⟨i, i + n⟩).1 = ((List.range' i n).filterMap s.get?).reverse := by
  induction n with
  | zero => rfl
  | succ n ih =>
    obtain ⟨x, hx⟩ := Option.isSome_iff_exists.1 (h n (Nat.lt_succ_self n))
    have hnext : pop s .back ⟨i, i + (n + 1)⟩ = (some x, ⟨i, i + n⟩) := by
      show nextBack s _ = _
      rw [nextBack_of_lt (by simp), ← hx]
      rfl
    unfold take
    rw [hnext, List.range'_concat, List.filterMap_append, Nat.one_mul,
      List.filterMap_cons_some hx, List.reverse_append, ← ih fun j hj => h j (by omega)]
    rfl

/-- A cursor with everything before it drains what reading in order finds. -/
theorem drain_start (s : Indexed α) : ((start s).drain s .front).1 = s.items := by
  show (take s .front s.size ⟨0, s.size⟩).1 = s.itemsFrom s.size 0
  rw [← take_front, Nat.zero_add]

/-- Without holes it drains the same from the back, in reverse. -/
theorem drain_start_back (h : ∀ i < s.size, (s.get? i).isSome) :
    ((start s).drain s .back).1 = s.items.reverse := by
  have hread : ∀ j < s.size, (s.get? (0 + j)).isSome := fun j hj => (Nat.zero_add j).symm ▸ h j hj
  show (take s .back s.size ⟨0, s.size⟩).1 = (s.itemsFrom s.size 0).reverse
  rw [Indexed.itemsFrom_of_readable hread, ← take_back hread, Nat.zero_add]

end Cursor

end CommonSubsequence
