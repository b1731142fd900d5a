/-
  CommonSubsequence.Alignment.Pair — matched positions, and chains of them.

  A pair names a position of the row sequence and a position of the column sequence.  Pairs have
  two orders: the total one, by row and then by column, in which they are sorted, and the strict
  partial one, smaller in both coordinates, along which an alignment runs.
-/
import CommonSubsequence.Fault

namespace CommonSubsequence

/-! ## §1. Pairs. -/

/-- A position of the row sequence and a position of the column sequence, both from zero. -/
structure Pair where
  row : Nat
  column : Nat
deriving DecidableEq, Repr, Inhabited

namespace Pair

/-- The pair of two coordinates. -/
def ofProd (p : Nat × Nat) : Pair := ⟨p.1, p.2⟩

/-- The text of a pair. -/
def text (p : Pair) : String :=
  s!"({p.row}, {p.column})"

instance : ToString Pair := ⟨text⟩

/-! ## §2. The total order. -/

/-- By row, then by column. -/
def order (p q : Pair) : Ordering :=
  (compare p.row q.row).then (compare p.column q.column)

instance : Ord Pair := ⟨order⟩

/-- Pairs in ascending order. -/
def sort (ps : List Pair) : List Pair :=
  ps.mergeSort fun p q => (p.order q).isLE

/-- No two pairs are tied in the total order. -/
theorem order_eq_iff {p q : Pair} : p.order q = .eq ↔ p = q := by
  cases p; cases q
  simp [order, Ordering.then_eq_eq]

/-! ## §3. The strict partial order. -/

/-- Smaller in both coordinates. -/
def Before (p q : Pair) : Prop :=
  p.row < q.row ∧ p.column < q.column

instance (p q : Pair) : Decidable (p.Before q) :=
  inferInstanceAs (Decidable (_ ∧ _))

/-- Being before is passed on from pair to pair. -/
theorem Before.trans {p q r : Pair} (h : p.Before q) (h' : q.Before r) : p.Before r :=
  ⟨Nat.lt_trans h.1 h'.1, Nat.lt_trans h.2 h'.2⟩

theorem Before.irrefl (p : Pair) : ¬ p.Before p :=
  fun h => Nat.lt_irrefl _ h.1

/-- Each pair of the list is before all that come after it. -/
def Ascending (ps : List Pair) : Prop :=
  ps.Pairwise Before

instance (ps : List Pair) : Decidable (Ascending ps) :=
  inferInstanceAs (Decidable (List.Pairwise Before ps))

/-- A list that ascends may be continued by a pair behind all of it. -/
theorem Ascending.snoc {ps : List Pair} {q : Pair} (h : Ascending ps)
    (hq : ∀ p ∈ ps, p.Before q) : Ascending (ps ++ [q]) := by
  refine List.pairwise_append.2 ⟨h, List.pairwise_singleton _ _, ?_⟩
  intro p hp q' hq'
  rw [List.mem_singleton.1 hq']
  exact hq p hp

end Pair

end CommonSubsequence
