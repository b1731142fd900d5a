/-
  CommonSubsequence.Proofs.Deque — a cursor is a queue with two ends.

  A `Deque` holds positions: those taken from its front, those still waiting, and those taken from
  its back.  A read takes one position off an end and looks it up; it takes the position also where
  nothing is found, so over a sequence with holes an empty answer says nothing about the queue.

  The cursor keeps two numbers in place of the three lists (`Tracks`).  What one read does to both
  is the single step from which every move, and by induction every run of moves, follows.  The
  interval of a cursor only shrinks, whatever is asked; and where every position can be read, a move
  that finds nothing leaves nothing behind, so all later moves are idle.

  Main results:
    * `Tracks.pop` — one read of the cursor is one read of the queue.
    * `Cursor.run_invariant` — what every read preserves holds after every run.
    * `Cursor.spent_of_step_none` — an empty answer, where all can be read, spends the cursor.
    * `cursor_deque` — the cursor as a queue, over every sequence and every run.
-/
import CommonSubsequence.Indexed.Cursor

namespace CommonSubsequence

universe u
variable {α : Type u}

/-! ## §1. The queue of positions. -/

/-- Positions by where they went: off the front, not yet anywhere, off the back. -/
structure Deque where
  /-- The positions taken from the front, in the order they were taken. -/
  heads : List Nat
  /-- The positions still to come. -/
  waiting : List Nat
  /-- The positions taken from the back, in the order they were taken. -/
  tails : List Nat
deriving DecidableEq, Repr

namespace Deque

/-- All positions below `n` are waiting. -/
def full (n : Nat) : Deque := ⟨[], List.range n, []⟩

/-- Take the position at an end, if one is waiting. -/
def take? (d : Deque) : Cursor.End → Option (Nat × Deque)
  | .front => d.waiting.head?.map fun i =>
      (i, { d with heads := d.heads ++ [i], waiting := d.waiting.tail })
  | .back => d.waiting.getLast?.map fun i =>
      (i, { d with waiting := d.waiting.dropLast, tails := d.tails ++ [i] })

theorem take?_nil (is ks : List Nat) (e : Cursor.End) : (⟨is, [], ks⟩ : Deque).take? e = none := by
  cases e <;> rfl

theorem take?_front (is js ks : List Nat) (i : Nat) :
    (⟨is, i :: js, ks⟩ : Deque).take? .front = some (i, ⟨is ++ [i], js, ks⟩) := rfl

theorem take?_back (is js ks : List Nat) (i : Nat) :
    (⟨is, js ++ [i], ks⟩ : Deque).take? .back = some (i, ⟨is, js, ks ++ [i]⟩) := by
  simp [take?]

/-- Take the position at an end and look it up. -/
def pop (s : Indexed α) (e : Cursor.End) (d : Deque) : Option α × Deque :=
  match d.take? e with
  | none => (none, d)
  | some (i, d') => (s.get? i, d')

/-- What at most `n` reads at an end look up, the first that finds nothing being the last. -/
def reads (s : Indexed α) (e : Cursor.End) : Nat → Deque → List (Option α) × Deque
  | 0, d => ([], d)
  | n + 1, d =>
    match d.take? e with
    | none => ([], d)
    | some (i, d') =>
      match s.get? i with
      -- the position is gone although nothing was found at it
      | none => ([none], d')
      | some x =>
        let (xs, d'') := reads s e n d'
        (some x :: xs, d'')

/-- A single one of these reads takes a position and looks it up. -/
theorem reads_one (s : Indexed α) (e : Cursor.End) (d : Deque) :
    (d.reads s e 1).1[0]?.join = (d.pop s e).1 ∧ (d.reads s e 1).2 = (d.pop s e).2 := by
  unfold reads pop
  cases d.take? e with
  | none => exact ⟨rfl, rfl⟩
  | some found =>
    obtain ⟨i, d'⟩ := found
    cases hi : s.get? i <;> simp [hi, reads]

/-- Carry out one move on the queue. -/
def step (s : Indexed α) (d : Deque) : Cursor.Move → Cursor.Answer α × Deque
  | .pop e => let (x, d') := d.pop s e; (.element x, d')
  | .remaining => (.number d.waiting.length, d)
  | .bounds => (.bounds d.waiting.length d.waiting.length, d)
  | .drain e => let (xs, d') := d.reads s e d.waiting.length; (.elements (xs.filterMap id), d')
  | .count =>
    let (xs, d') := d.reads s .front d.waiting.length
    (.number (xs.filterMap id).length, d')
  | .last =>
    let (xs, d') := d.reads s .front d.waiting.length
    (.element (xs.filterMap id).getLast?, d')
  -- too few reads leave the place of the answer empty
  | .nth e n => let (xs, d') := d.reads s e (n + 1); (.element xs[n]?.join, d')

/-- Carry out moves in order. -/
def run (s : Indexed α) : List Cursor.Move → Deque → List (Cursor.Answer α) × Deque
  | [], d => ([], d)
  | m :: ms, d =>
    let (a, d') := d.step s m
    let (as, d'') := run s ms d'
    (a :: as, d'')

end Deque

/-! ## §2. The cursor keeps track of the queue. -/

/-- The numbers below `n`, split at `i`. -/
theorem range_append_range' {i n : Nat} (h : i ≤ n) :
    List.range i ++ List.range' i (n - i) = List.range n := by
  rw [List.range_eq_range', List.range_eq_range', ← Nat.add_sub_cancel' h, ← List.range'_append_1,
    Nat.zero_add]
  simp

/-- The two numbers of a cursor stand for the three lists of a queue of `n` positions. -/
structure Tracks (n : Nat) (c : Cursor) (d : Deque) : Prop where
  front_le_back : c.front ≤ c.back
  back_le : c.back ≤ n
  heads : d.heads = List.range c.front
  waiting : d.waiting = List.range' c.front c.remaining
  tails : d.tails.reverse = List.range' c.back (n - c.back)

namespace Tracks

variable {s : Indexed α} {n : Nat} {c : Cursor} {d : Deque}

/-- A new cursor tracks the queue of all positions. -/
theorem full (s : Indexed α) : Tracks s.size (Cursor.start s) (Deque.full s.size) where
  front_le_back := Nat.zero_le _
  back_le := Nat.le_refl _
  heads := rfl
  waiting := List.range_eq_range'
  tails := by simp [Deque.full, Cursor.start]

theorem length_waiting (h : Tracks n c d) : d.waiting.length = c.remaining := by
  rw [h.waiting, List.length_range']

/-- The three lists make up the positions. -/
theorem whole (h : Tracks n c d) : d.heads ++ d.waiting ++ d.tails.reverse = List.range n := by
  rw [h.heads, h.waiting, h.tails, Cursor.remaining, range_append_range' h.front_le_back,
    range_append_range' h.back_le]

/-- No position is taken twice. -/
theorem nodup (h : Tracks n c d) : (d.heads ++ d.tails).Nodup := by
  have hwhole : (d.heads ++ d.waiting ++ d.tails.reverse).Nodup := by
    rw [h.whole]
    exact List.nodup_range
  -- leave out what is waiting, and turn the tails round
  have hsub : (d.heads ++ d.tails.reverse).Sublist (d.heads ++ d.waiting ++ d.tails.reverse) :=
    (List.sublist_append_left _ _).append (List.Sublist.refl _)
  exact (List.Perm.append_left _ (List.reverse_perm _)).nodup_iff.1 (hwhole.sublist hsub)

/-! ## §3. One read. -/

/-- From the queue of a spent cursor nothing can be taken. -/
theorem take?_spent (h : Tracks n c d) (hspent : c.back ≤ c.front) (e : Cursor.End) :
    d.take? e = none := by
  obtain ⟨heads, waiting, tails⟩ := d
  have hwaiting : waiting = List.range' c.front (c.back - c.front) := h.waiting
  rw [Nat.sub_eq_zero_of_le hspent, List.range'_zero] at hwaiting
  subst hwaiting
  exact Deque.take?_nil _ _ _

/-- The first position that is waiting is where the cursor reads next. -/
theorem take?_front (h : Tracks n c d) (hlt : c.front < c.back) :
    ∃ d', d.take? .front = some (c.front, d') ∧ Tracks n ⟨c.front + 1, c.back⟩ d' := by
  obtain ⟨heads, waiting, tails⟩ := d
  have hwaiting : waiting = List.range' c.front (c.back - c.front) := h.waiting
  have hheads : heads = List.range c.front := h.heads
  rw [show c.back - c.front = c.back - (c.front + 1) + 1 by omega, List.range'_succ] at hwaiting
  subst hwaiting
  refine ⟨_, Deque.take?_front _ _ _ _, hlt, h.back_le, ?_, rfl, h.tails⟩
  show heads ++ [c.front] = List.range (c.front + 1)
  rw [List.range_succ, hheads]

/-- The last one is where it reads next from the back. -/
theorem take?_back (h : Tracks n c d) (hlt : c.front < c.back) :
    ∃ d', d.take? .back = some (c.back - 1, d') ∧ Tracks n ⟨c.front, c.back - 1⟩ d' := by
  obtain ⟨heads, waiting, tails⟩ := d
  have hback := h.back_le
  have hwaiting : waiting = List.range' c.front (c.back - c.front) := h.waiting
  have htails : tails.reverse = List.range' c.back (n - c.back) := h.tails
  rw [show c.back - c.front = c.back - 1 - c.front + 1 by omega, List.range'_1_concat,
    show c.front + (c.back - 1 - c.front) = c.back - 1 by omega] at hwaiting
  subst hwaiting
  refine ⟨_, Deque.take?_back _ _ _ _, Nat.le_sub_one_of_lt hlt,
    Nat.le_trans (Nat.sub_le _ _) hback, h.heads, rfl, ?_⟩
  -- the position taken stands in front of those that were taken before
  show (tails ++ [c.back - 1]).reverse = List.range' (c.back - 1) (n - (c.back - 1))
  rw [List.reverse_append, htails, show n - (c.back - 1) = n - c.back + 1 by omega,
    List.range'_succ, Nat.sub_add_cancel (by omega)]
  rfl

/-- Either nothing is waiting, or both take the same position off the end. -/
theorem take?_cases (h : Tracks n c d) (e : Cursor.End) :
    (c.back ≤ c.front ∧ d.take? e = none)
      ∨ ∃ i c' d', d.take? e = some (i, d') ∧ (∀ s : Indexed α, c.pop s e = (s.get? i, c'))
        ∧ Tracks n c' d' := by
  by_cases hlt : c.front < c.back
  · right
    cases e with
    | front =>
      obtain ⟨d', htake, h'⟩ := h.take?_front hlt
      exact ⟨_, _, d', htake, fun s => Cursor.next_of_lt hlt, h'⟩
    | back =>
      obtain ⟨d', htake, h'⟩ := h.take?_back hlt
      exact ⟨_, _, d', htake, fun s => Cursor.nextBack_of_lt hlt, h'⟩
  · left
    have hspent : c.back ≤ c.front := Nat.le_of_not_lt hlt
    exact ⟨hspent, h.take?_spent hspent e⟩

/-- One read of the cursor is one read of the queue. -/
theorem pop (h : Tracks s.size c d) (e : Cursor.End) :
    (c.pop s e).1 = (d.pop s e).1 ∧ Tracks s.size (c.pop s e).2 (d.pop s e).2 := by
  unfold Deque.pop
  rcases h.take?_cases (α := α) e with ⟨hspent, htake⟩ | ⟨i, c', d', htake, hpop, h'⟩
  · rw [Cursor.pop_of_spent hspent, htake]
    exact ⟨rfl, h⟩
  · rw [hpop, htake]
    exact ⟨rfl, h'⟩

/-! ## §4. Repeated reads and runs. -/

/-- Going on to the `n`-th position takes `n + 1` positions from the queue. -/
theorem nth (h : Tracks s.size c d) (e : Cursor.End) (n : Nat) :
    (c.nth s e n).1 = (d.reads s e (n + 1)).1[n]?.join
      ∧ Tracks s.size (c.nth s e n).2 (d.reads s e (n + 1)).2 := by
  induction n generalizing c d with
  | zero =>
    obtain ⟨hanswer, hqueue⟩ := Deque.reads_one s e d
    rw [hanswer, hqueue]
    exact h.pop e
  | succ n ih =>
    unfold Cursor.nth Deque.reads
    rcases h.take?_cases (α := α) e with ⟨hspent, htake⟩ | ⟨i, c', d', htake, hpop, h'⟩
    · rw [Cursor.pop_of_spent hspent, htake]
      exact ⟨rfl, h⟩
    · rw [hpop, htake]
      cases hi : s.get? i with
      | none => simpa [hi] using h'
      | some x => simpa [hi] using ih h'

/-- Reading up to `n` elements takes up to `n` positions from the queue. -/
theorem take (h : Tracks s.size c d) (e : Cursor.End) (n : Nat) :
    (c.take s e n).1 = (d.reads s e n).1.filterMap id
      ∧ Tracks s.size (c.take s e n).2 (d.reads s e n).2 := by
  induction n generalizing c d with
  | zero => exact ⟨rfl, h⟩
  | succ n ih =>
    unfold Cursor.take Deque.reads
    rcases h.take?_cases (α := α) e with ⟨hspent, htake⟩ | ⟨i, c', d', htake, hpop, h'⟩
    · rw [Cursor.pop_of_spent hspent, htake]
      exact ⟨rfl, h⟩
    · rw [hpop, htake]
      cases hi : s.get? i with
      | none => simpa [hi] using h'
      | some x => simpa [hi] using ih h'

/-- Reading all elements takes all positions that wait. -/
theorem drain (h : Tracks s.size c d) (e : Cursor.End) :
    (c.drain s e).1 = (d.reads s e d.waiting.length).1.filterMap id
      ∧ Tracks s.size (c.drain s e).2 (d.reads s e d.waiting.length).2 := by
  rw [h.length_waiting]
  exact h.take e c.remaining

/-- One move of the cursor is one move of the queue. -/
theorem step (h : Tracks s.size c d) (m : Cursor.Move) :
    (c.step s m).1 = (d.step s m).1 ∧ Tracks s.size (c.step s m).2 (d.step s m).2 := by
  cases m with
  | pop e => exact ⟨congrArg _ (h.pop e).1, (h.pop e).2⟩
  | remaining => exact ⟨congrArg _ h.length_waiting.symm, h⟩
  | bounds => exact ⟨by simp only [Cursor.step, Deque.step, h.length_waiting], h⟩
  | drain e => exact ⟨congrArg _ (h.drain e).1, (h.drain e).2⟩
  | count =>
    obtain ⟨hfound, hnext⟩ := h.drain .front
    exact ⟨congrArg (fun xs : List α => Cursor.Answer.number xs.length) hfound, hnext⟩
  | last =>
    obtain ⟨hfound, hnext⟩ := h.drain .front
    exact ⟨congrArg (fun xs : List α => Cursor.Answer.element xs.getLast?) hfound, hnext⟩
  | nth e n => exact ⟨congrArg _ (h.nth e n).1, (h.nth e n).2⟩

/-- One run of the cursor is one run of the queue. -/
theorem run (h : Tracks s.size c d) (ms : List Cursor.Move) :
    (c.run s ms).1 = (d.run s ms).1 ∧ Tracks s.size (c.run s ms).2 (d.run s ms).2 := by
  induction ms generalizing c d with
  | nil => exact ⟨rfl, h⟩
  | cons m ms ih =>
    obtain ⟨hanswer, hnext⟩ := h.step m
    obtain ⟨hanswers, hlast⟩ := ih hnext
    refine ⟨?_, hlast⟩
    show (c.step s m).1 :: ((c.step s m).2.run s ms).1
      = (d.step s m).1 :: ((d.step s m).2.run s ms).1
    rw [hanswer, hanswers]

end Tracks

/-! ## §5. What every read preserves. -/

namespace Cursor

variable {s : Indexed α} {c : Cursor} {e : End}

section Invariant

variable {P : Cursor → Prop} (hpop : ∀ e c, P c → P (c.pop s e).2)
include hpop

/-- What reading one position preserves, going on to the `n`-th preserves. -/
theorem nth_invariant (n : Nat) (h : P c) : P (c.nth s e n).2 := by
  induction n generalizing c with
  | zero => exact hpop e c h
  | succ n ih =>
    have hnext := hpop e c h
    unfold nth
    rcases hread : c.pop s e with ⟨_ | x, c'⟩ <;> rw [hread] at hnext
    · exact hnext
    · exact ih hnext

theorem take_invariant (n : Nat) (h : P c) : P (c.take s e n).2 := by
  induction n generalizing c with
  | zero => exact h
  | succ n ih =>
    have hnext := hpop e c h
    unfold take
    rcases hread : c.pop s e with ⟨_ | x, c'⟩ <;> rw [hread] at hnext
    · exact hnext
    · exact ih hnext

theorem step_invariant (m : Move) (h : P c) : P (c.step s m).2 := by
  cases m with
  | pop e => exact hpop e c h
  | remaining => exact h
  | bounds => exact h
  | drain e => exact take_invariant hpop _ h
  | count => exact take_invariant hpop _ h
  | last => exact take_invariant hpop _ h
  | nth e n => exact nth_invariant hpop n h

/-- What every read preserves holds after every run. -/
theorem run_invariant (ms : List Move) (h : P c) : P (c.run s ms).2 := by
  induction ms generalizing c with
  | nil => exact h
  | cons m ms ih => exact ih (step_invariant hpop m h)

end Invariant

/-- The first interval lies in the second. -/
def Within (c c₀ : Cursor) : Prop := c₀.front ≤ c.front ∧ c.back ≤ c₀.back

/-- A cursor within another one has no more left than that one. -/
theorem Within.remaining_le {c₀ : Cursor} (h : Within c c₀) : c.remaining ≤ c₀.remaining := by
  obtain ⟨hfront, hback⟩ := h
  show c.back - c.front ≤ c₀.back - c₀.front
  omega

theorem within_pop {c₀ : Cursor} (e : End) (c : Cursor) (h : Within c c₀) :
    Within (c.pop s e).2 c₀ := by
  obtain ⟨hfront, hback⟩ := h
  by_cases hlt : c.front < c.back
  · cases e with
    | front => simp only [pop, next_of_lt hlt, Within]; omega
    | back => simp only [pop, nextBack_of_lt hlt, Within]; omega
  · rw [pop_of_spent (Nat.le_of_not_lt hlt)]
    exact ⟨hfront, hback⟩

/-- No run adds a position. -/
theorem remaining_run_le (s : Indexed α) (ms : List Move) (c : Cursor) :
    (c.run s ms).2.remaining ≤ c.remaining :=
  (run_invariant (P := (Within · c)) within_pop ms ⟨Nat.le_refl _, Nat.le_refl _⟩).remaining_le

/-! ## §6. Spent cursors. -/

/-- What a move answers if nothing is left. -/
def Move.idle : Move → Answer α
  | .pop _ => .element none
  | .remaining => .number 0
  | .bounds => .bounds 0 0
  | .drain _ => .elements []
  | .count => .number 0
  | .last => .element none
  | .nth _ _ => .element none

/-- Every run answers that nothing is left, and changes nothing. -/
def Finished (s : Indexed α) (c : Cursor) : Prop :=
  ∀ ms : List Move, c.run s ms = (ms.map Move.idle, c)

/-- A spent cursor finds nothing more. -/
theorem drain_of_spent (h : c.back ≤ c.front) : c.drain s e = ([], c) := by
  show take s e (c.back - c.front) c = _
  rw [Nat.sub_eq_zero_of_le h]
  rfl

/-- No move makes a spent cursor go on. -/
theorem step_of_spent (h : c.back ≤ c.front) (m : Move) : c.step s m = (m.idle, c) := by
  have hremaining : c.remaining = 0 := Nat.sub_eq_zero_of_le h
  cases m with
  | pop e => simp [step, Move.idle, pop_of_spent h]
  | remaining => simp [step, Move.idle, hremaining]
  | bounds => simp [step, Move.idle, hremaining]
  | drain e => simp [step, Move.idle, drain_of_spent h]
  | count => simp [step, Move.idle, drain_of_spent h]
  | last => simp [step, Move.idle, drain_of_spent h]
  | nth e n => cases n <;> simp [step, Move.idle, nth, pop_of_spent h]

theorem finished_of_spent (h : c.back ≤ c.front) : c.Finished s := by
  intro ms
  induction ms with
  | nil => rfl
  | cons m ms ih => simp [run, step_of_spent h, ih]

section Readable

variable (hread : ∀ i < s.size, (s.get? i).isSome)
include hread

/-- A read that finds nothing finds no position. -/
theorem spent_of_pop_none (hback : c.back ≤ s.size) (h : (c.pop s e).1 = none) :
    c.back ≤ c.front := by
  apply Nat.le_of_not_lt
  intro hlt
  cases e with
  | front =>
    have hsome := hread c.front (by omega)
    rw [show (c.pop s .front).1 = s.get? c.front by simp [pop, next_of_lt hlt]] at h
    simp [h] at hsome
  | back =>
    have hsome := hread (c.back - 1) (by omega)
    rw [show (c.pop s .back).1 = s.get? (c.back - 1) by simp [pop, nextBack_of_lt hlt]] at h
    simp [h] at hsome

/-- Where every position below the size can be read, a search that finds no `n`-th element leaves
the cursor spent. -/
theorem spent_of_nth_none {n : Nat} (hback : c.back ≤ s.size) (h : (c.nth s e n).1 = none) :
    (c.nth s e n).2.back ≤ (c.nth s e n).2.front := by
  induction n generalizing c with
  | zero =>
    have hspent := spent_of_pop_none hread hback h
    show (c.pop s e).2.back ≤ (c.pop s e).2.front
    rw [pop_of_spent hspent]
    exact hspent
  | succ n ih =>
    by_cases hspent : c.back ≤ c.front
    · simp only [nth, pop_of_spent hspent]
      exact hspent
    · have hshrinks : Within (c.pop s e).2 c := within_pop e c ⟨Nat.le_refl _, Nat.le_refl _⟩
      unfold nth at h ⊢
      rcases hpop : c.pop s e with ⟨_ | x, c'⟩ <;> rw [hpop] at h hshrinks
      · exact absurd (spent_of_pop_none hread hback (congrArg Prod.fst hpop)) hspent
      · exact ih (Nat.le_trans hshrinks.2 hback) h

/-- Where every position below the size can be read, only a spent cursor finds nothing to read out.
-/
theorem spent_of_drain_nil (hback : c.back ≤ s.size) (h : (c.drain s e).1 = []) :
    c.back ≤ c.front := by
  apply Nat.le_of_not_lt
  intro hlt
  obtain ⟨n, hn⟩ := Nat.exists_eq_succ_of_ne_zero (Nat.sub_ne_zero_of_lt hlt)
  rw [drain, show c.remaining = n + 1 from hn] at h
  unfold take at h
  rcases hpop : c.pop s e with ⟨_ | x, c'⟩ <;> rw [hpop] at h
  · have hspent := spent_of_pop_none hread hback (congrArg Prod.fst hpop)
    omega
  · exact List.cons_ne_nil _ _ h

/-- An empty answer spends the cursor, where every position can be read. -/
theorem spent_of_step_none (hback : c.back ≤ s.size) {m : Move}
    (h : (c.step s m).1 = .element none) : (c.step s m).2.back ≤ (c.step s m).2.front := by
  cases m with
  | pop e => exact spent_of_nth_none hread (n := 0) hback (Answer.element.inj h)
  | last =>
    have hnil := List.getLast?_eq_none_iff.1 (Answer.element.inj h)
    have hspent := spent_of_drain_nil hread hback hnil
    rw [step_of_spent hspent]
    exact hspent
  | nth e n => exact spent_of_nth_none hread hback (Answer.element.inj h)
  | remaining => cases h
  | bounds => cases h
  | drain e => cases h
  | count => cases h

end Readable

end Cursor

/-! ## §7. Where every position can be read. -/

namespace Tracks

variable {s : Indexed α} {c : Cursor} {d : Deque}

/-- A waiting position lies below the size. -/
theorem lt_of_mem_waiting (h : Tracks s.size c d) {i : Nat} (hi : i ∈ d.waiting) : i < s.size := by
  have hback := h.back_le
  rw [h.waiting, List.mem_range'_1] at hi
  simp only [Cursor.remaining] at hi
  omega

variable (hread : ∀ i < s.size, (s.get? i).isSome)
include hread

/-- What is still to come, read forwards and read backwards. -/
theorem drain_eq (h : Tracks s.size c d) :
    (c.drain s .front).1 = d.waiting.filterMap s.get?
      ∧ (c.drain s .back).1 = (d.waiting.filterMap s.get?).reverse := by
  have hcursor : c = ⟨c.front, c.front + c.remaining⟩ := by
    rw [Cursor.remaining, Nat.add_sub_cancel' h.front_le_back]
  have hwaiting : ∀ j < c.remaining, (s.get? (c.front + j)).isSome := by
    intro j hj
    apply hread
    apply h.lt_of_mem_waiting
    rw [h.waiting, List.mem_range'_1]
    omega
  constructor
  · show (Cursor.take s .front c.remaining c).1 = _
    rw [h.waiting, ← Indexed.itemsFrom_of_readable hwaiting, ← Cursor.take_front, ← hcursor]
  · show (Cursor.take s .back c.remaining c).1 = _
    rw [h.waiting, ← Cursor.take_back hwaiting, ← hcursor]

/-- The elements by where their positions went make up the sequence. -/
theorem items_eq (h : Tracks s.size c d) :
    d.heads.filterMap s.get? ++ d.waiting.filterMap s.get? ++ (d.tails.filterMap s.get?).reverse
      = s.items := by
  have hall : ∀ j < s.size, (s.get? (0 + j)).isSome := fun j hj =>
    (Nat.zero_add j).symm ▸ hread j hj
  rw [← List.filterMap_reverse, ← List.filterMap_append, ← List.filterMap_append, h.whole,
    List.range_eq_range', ← Indexed.itemsFrom_of_readable hall]
  rfl

theorem length_filterMap_waiting (h : Tracks s.size c d) :
    (d.waiting.filterMap s.get?).length = c.remaining := by
  rw [List.filterMap_length_eq_length.2 fun i hi => hread i (h.lt_of_mem_waiting hi),
    h.length_waiting]

end Tracks

/-! ## §8. The cursor as a queue. -/

/-- **A cursor is a queue with two ends.**  Whatever is asked of a fresh cursor, in whatever order,
it answers as the queue of positions below the size does: each read takes one position off its end
and looks it up.  The positions taken and those still waiting make up all of them, none is taken
twice, and the two ends never pass each other; what is reported to remain is what is waiting, which
no further run adds to; and once nothing is waiting, every later run answers so and changes nothing.
Where every position can be read, the elements taken from the front, those still to come and those
taken from the back in reverse make up the sequence, exactly as many are still to come as is
reported, and the first answer without an element is the end. -/
theorem cursor_deque (s : Indexed α) (ms : List Cursor.Move) :
    ∃ (answers : List (Cursor.Answer α)) (c : Cursor) (d : Deque),
      (Cursor.start s).run s ms = (answers, c)
        ∧ (Deque.full s.size).run s ms = (answers, d)
        ∧ c.front ≤ c.back ∧ c.back ≤ s.size
        ∧ d.heads ++ d.waiting ++ d.tails.reverse = List.range s.size
        ∧ (d.heads ++ d.tails).Nodup
        ∧ c.remaining = d.waiting.length
        ∧ (∀ ms', (c.run s ms').2.remaining ≤ c.remaining)
        ∧ (d.waiting = [] → c.Finished s)
        ∧ ((∀ i < s.size, (s.get? i).isSome) →
          (c.drain s .front).1 = d.waiting.filterMap s.get?
            ∧ (c.drain s .back).1 = (d.waiting.filterMap s.get?).reverse
            ∧ d.heads.filterMap s.get? ++ d.waiting.filterMap s.get?
                ++ (d.tails.filterMap s.get?).reverse = s.items
            ∧ (d.waiting.filterMap s.get?).length = c.remaining
            ∧ ∀ m, (c.step s m).1 = .element none → (c.step s m).2.Finished s) := by
  obtain ⟨hanswers, h⟩ := (Tracks.full s).run ms
  refine ⟨_, _, _, rfl, Prod.ext hanswers.symm rfl, h.front_le_back, h.back_le, h.whole, h.nodup,
    h.length_waiting.symm, fun ms' => Cursor.remaining_run_le s ms' _, ?_, ?_⟩
  · intro hempty
    apply Cursor.finished_of_spent
    apply Nat.le_of_sub_eq_zero
    rw [← Cursor.remaining, ← h.length_waiting, hempty]
    rfl
  · intro hread
    obtain ⟨hfront, hback⟩ := h.drain_eq hread
    refine ⟨hfront, hback, h.items_eq hread, h.length_filterMap_waiting hread, ?_⟩
    intro m hnone
    exact Cursor.finished_of_spent (Cursor.spent_of_step_none hread h.back_le hnone)

/-- Two elements off the front, one off the back, and then more than there are. -/
theorem cursor_deque_five :
    let s := Indexed.ofList [10, 20, 30, 40, 50]
    let moves := [.nth .front 1, .pop .back, .remaining]
    (∀ i < s.size, (s.get? i).isSome)
      ∧ (Cursor.start s).run s moves
        = ([.element (some 20), .element (some 50), .number 2], ⟨2, 4⟩)
      ∧ ∃ d, (Deque.full 5).run s moves = ([.element (some 20), .element (some 50), .number 2], d)
        ∧ d.heads.filterMap s.get? ++ d.waiting.filterMap s.get?
          ++ (d.tails.filterMap s.get?).reverse = [10, 20, 30, 40, 50]
        ∧ (d.waiting.filterMap s.get?).length = 2
        ∧ ((⟨2, 4⟩ : Cursor).step s (.nth .back 5)).2.Finished s := by
  intro s moves
  have hread : ∀ i < s.size, (s.get? i).isSome := by decide
  have hrun : (Cursor.start s).run s moves
      = ([.element (some 20), .element (some 50), .number 2], ⟨2, 4⟩) := rfl
  obtain ⟨answers, c, d, hcursor, hqueue, _, _, _, _, _, _, _, hreadable⟩ := cursor_deque s moves
  obtain ⟨_, _, hitems, hlength, hfinished⟩ := hreadable hread
  rw [hrun] at hcursor
  obtain ⟨rfl, rfl⟩ := Prod.mk.inj hcursor
  exact ⟨hread, hrun, d, hqueue, hitems, hlength, hfinished (.nth .back 5) rfl⟩

/-- A hole answers like the end, but the queue goes on behind it. -/
example : (Cursor.run (Indexed.ofSlots 3 #[some 10, none, some 30])
    [.nth .front 1, .remaining, .pop .front] ⟨0, 3⟩).1
      = [.element none, .number 1, .element (some 30)] := rfl

end CommonSubsequence
