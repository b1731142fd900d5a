/-
  CommonSubsequence.Alignment.Embedding — where a subsequence lies in a list.

  A subsequence may lie in a list in many ways.  Reading both from the left and taking each element
  at the first opportunity gives the leftmost way, and `isSome_leftmost` says that it exists exactly
  for subsequences.  Ways of equal length are compared at the last place where they differ.
-/
import CommonSubsequence.Fault

namespace CommonSubsequence

universe u
variable {α : Type u} [DecidableEq α]

/-! ## §1. The leftmost embedding. -/

/-- The leftmost positions of the elements of the second list in the first one, whose own first
position is `i`. -/
def leftmostFrom : (i : Nat) → (xs ws : List α) → Option (List Nat)
  | _, _, [] => some []
  | _, [], _ :: _ => none
  | i, x :: xs, w :: ws =>
    if x = w then (leftmostFrom (i + 1) xs ws).map (i :: ·)
    else leftmostFrom (i + 1) xs (w :: ws)

/-- The leftmost positions of the elements of `ws` in `xs`. -/
def leftmost (xs ws : List α) : Option (List Nat) :=
  leftmostFrom 0 xs ws

/-- There is a leftmost embedding exactly for subsequences. -/
theorem isSome_leftmostFrom {i : Nat} {xs ws : List α} :
    (leftmostFrom i xs ws).isSome ↔ ws.Sublist xs := by
  induction xs generalizing i ws with
  | nil => cases ws <;> simp [leftmostFrom]
  | cons x xs ih =>
    cases ws with
    | nil => simp [leftmostFrom]
    | cons w ws =>
      unfold leftmostFrom
      by_cases h : x = w
      · subst h
        simp [ih]
      · rw [if_neg h, ih]
        constructor
        · exact fun hs => hs.cons x
        · intro hs
          -- `x` is not `w`, so it is left out
          cases hs with
          | cons _ hs => exact hs
          | cons_cons => exact absurd rfl h

/-- A list has a leftmost embedding exactly if it lies in the other one. -/
theorem isSome_leftmost {xs ws : List α} : (leftmost xs ws).isSome ↔ ws.Sublist xs :=
  isSome_leftmostFrom

/-! ## §2. Comparison from the last place. -/

/-- At the last place where they differ, the first list has the smaller number. -/
def LastSmaller (ps qs : List Nat) : Prop :=
  ∃ k p q : Nat, ps[k]? = some p ∧ qs[k]? = some q ∧ p < q ∧ ∀ j : Nat, k < j → ps[j]? = qs[j]?

/-- No list is smaller than itself. -/
theorem LastSmaller.irrefl (ps : List Nat) : ¬ LastSmaller ps ps := by
  intro hsmaller
  obtain ⟨k, p, q, hp, hq, hlt, _⟩ := hsmaller
  rw [hp, Option.some.injEq] at hq
  omega

end CommonSubsequence
