/-
  CommonSubsequence.Alignment.Problem — two sequences and the verdict that relates them.

  The verdict is any Boolean relation between row elements and column elements: it need not be
  reflexive, symmetric or transitive, and the two kinds of element may differ.  A common
  subsequence is a chain of matching pairs (`Problem.IsChain`).
-/
import CommonSubsequence.Alignment.Path

namespace CommonSubsequence

variable {α β : Type}

/-! ## §1. Problems. -/

/-- A row sequence, a column sequence and a verdict on their elements. -/
structure Problem (α β : Type) where
  /-- The sequence that results are read from. -/
  rows : Indexed α
  /-- The sequence that it is aligned with. -/
  columns : Indexed β
  /-- Does a row element match a column element? -/
  agree : α → β → Bool

namespace Problem

/-- Rows and columns exchanged, and the verdict with them. -/
def swap (p : Problem α β) : Problem β α where
  rows := p.columns
  columns := p.rows
  agree y x := p.agree x y

/-- Both sequences can be read exactly below their sizes. -/
def Lawful (p : Problem α β) : Prop :=
  p.rows.Lawful ∧ p.columns.Lawful

/-! ## §2. Chains of matching pairs. -/

/-- Both elements of the pair can be read, and they match. -/
def Matches (p : Problem α β) (q : Pair) : Prop :=
  ∃ x ∈ p.rows.get? q.row, ∃ y ∈ p.columns.get? q.column, p.agree x y = true

/-- Matching pairs, ascending in both coordinates, among the first `r` rows and `c` columns. -/
structure IsChain (p : Problem α β) (r c : Nat) (ps : List Pair) : Prop where
  ascending : Pair.Ascending ps
  /-- Each pair lies in the corner of `r` rows and `c` columns. -/
  inside : ∀ q ∈ ps, q.row < r ∧ q.column < c
  matching : ∀ q ∈ ps, p.Matches q

/-- `n` is the greatest number of pairs in a chain among the first `r` rows and `c` columns. -/
def IsOptimum (p : Problem α β) (r c n : Nat) : Prop :=
  (∃ ps, p.IsChain r c ps ∧ ps.length = n) ∧ ∀ ps, p.IsChain r c ps → ps.length ≤ n

theorem isChain_nil (p : Problem α β) (r c : Nat) : p.IsChain r c [] :=
  ⟨.nil, by simp, by simp⟩

end Problem

end CommonSubsequence
