/-
  CommonSubsequence.Proofs.Absorption — a string that lies in the other one is returned whole.

  The walk follows no given embedding of one string into the other; after a tie it may well read the
  common characters at other places than those one has in mind.  But the list it selects is a
  longest common one, and nothing that lies in a list is as long as that list except the list
  itself.  So a list that lies in another one is selected whole, from either side, and a selected
  list is selected again when it is compared with what it was selected from.

  Main results:
    * `chosen_eq_left_iff`, `chosen_eq_right_iff` — when the chosen list is one of the two.
    * `commonSubsequence_eq_left_iff`, `commonSubsequence_eq_right_iff` — the same for strings.
    * `commonSubsequence_absorbs` — what is returned, returned again.
-/
import CommonSubsequence.Proofs.Selection

namespace CommonSubsequence

/-! ## §1. Lists. -/

section Lists

variable {α : Type} [DecidableEq α] {xs ys : List α}

/-- The chosen list is the first one exactly if that lies in the second one. -/
theorem chosen_eq_left_iff : chosen xs ys = xs ↔ xs.Sublist ys := by
  obtain ⟨hx, hy, hbound⟩ := chosen_longest xs ys
  constructor
  · intro h
    rw [h] at hy
    exact hy
  · intro h
    exact hx.eq_of_length_le (hbound xs (List.Sublist.refl xs) h)

/-- The chosen list is the second one exactly if that lies in the first one. -/
theorem chosen_eq_right_iff : chosen xs ys = ys ↔ ys.Sublist xs := by
  obtain ⟨hx, hy, hbound⟩ := chosen_longest xs ys
  constructor
  · intro h
    rw [h] at hx
    exact hx
  · intro h
    exact hy.eq_of_length_le (hbound ys h (List.Sublist.refl ys))

end Lists

/-! ## §2. Strings. -/

section Strings

variable {a b x y : String}

/-- A string is answered whole, from the side of the rows, exactly if it lies in the other one. -/
theorem commonSubsequence_eq_left_iff (hf : Grid.Fits (x.length + 1) (y.length + 1)) :
    commonSubsequence x y = .ok x ↔ x.toList.Sublist y.toList := by
  rw [commonSubsequence_eq hf, Except.ok.injEq, ← String.toList_inj, String.toList_ofList]
  exact chosen_eq_left_iff

theorem commonSubsequence_eq_right_iff (hf : Grid.Fits (y.length + 1) (x.length + 1)) :
    commonSubsequence y x = .ok x ↔ x.toList.Sublist y.toList := by
  rw [commonSubsequence_eq hf, Except.ok.injEq, ← String.toList_inj, String.toList_ofList]
  exact chosen_eq_right_iff

/-- Compared with a string that it lies in, from either side, a string is returned. -/
theorem commonSubsequence_of_sublist (hf : Grid.Fits (x.length + 1) (y.length + 1))
    (h : x.toList.Sublist y.toList) :
    commonSubsequence x y = .ok x ∧ commonSubsequence y x = .ok x :=
  ⟨(commonSubsequence_eq_left_iff hf).2 h, (commonSubsequence_eq_right_iff hf.symm).2 h⟩

/-- What is returned for two strings lies in both of them, so the grids of a comparison with either
of them can be allocated as well. -/
theorem exists_commonSubsequence (hf : Grid.Fits (a.length + 1) (b.length + 1)) :
    ∃ s, commonSubsequence a b = .ok s ∧ s.toList.Sublist a.toList ∧ s.toList.Sublist b.toList
      ∧ Grid.Fits (s.length + 1) (a.length + 1) ∧ Grid.Fits (s.length + 1) (b.length + 1) := by
  obtain ⟨hleft, hright, _⟩ := chosen_longest a.toList b.toList
  have hla : (chosen a.toList b.toList).length ≤ a.length := hleft.length_le
  have hlb : (chosen a.toList b.toList).length ≤ b.length := hright.length_le
  refine ⟨_, commonSubsequence_eq hf, ?_⟩
  rw [String.toList_ofList, String.length_ofList]
  refine ⟨hleft, hright, ?_, ?_⟩
  · exact hf.symm.mono (by omega) (Nat.le_refl _)
  · exact hf.mono (by omega) (Nat.le_refl _)

/-- **Subsequences are absorbed.**  A string is returned whole exactly if it lies in the other one,
and then it does not matter which of the two comes first.  So what is returned for two strings is
returned again when it is compared with either of them. -/
theorem commonSubsequence_absorbs :
    (∀ x y : String, Grid.Fits (x.length + 1) (y.length + 1) →
      (commonSubsequence x y = .ok x ↔ x.toList.Sublist y.toList)
        ∧ (x.toList.Sublist y.toList → commonSubsequence y x = .ok x))
    ∧ (∀ a b : String, Grid.Fits (a.length + 1) (b.length + 1) →
      ∃ s, commonSubsequence a b = .ok s
        ∧ commonSubsequence s a = .ok s ∧ commonSubsequence a s = .ok s
        ∧ commonSubsequence s b = .ok s ∧ commonSubsequence b s = .ok s)
    ∧ (∀ a : String, Grid.Fits (a.length + 1) (a.length + 1) → commonSubsequence a a = .ok a)
    ∧ ∀ a : String, Grid.Fits (a.length + 1) 1 →
      commonSubsequence a "" = .ok "" ∧ commonSubsequence "" a = .ok "" := by
  refine ⟨?_, ?_, ?_, ?_⟩
  · intro x y hf
    exact ⟨commonSubsequence_eq_left_iff hf, fun h => (commonSubsequence_of_sublist hf h).2⟩
  · intro a b hf
    obtain ⟨s, hs, hleft, hright, hfa, hfb⟩ := exists_commonSubsequence hf
    obtain ⟨hsa, has⟩ := commonSubsequence_of_sublist hfa hleft
    obtain ⟨hsb, hbs⟩ := commonSubsequence_of_sublist hfb hright
    exact ⟨s, hs, hsa, has, hsb, hbs⟩
  · intro a hf
    exact (commonSubsequence_of_sublist hf (List.Sublist.refl _)).1
  · intro a hf
    have hedge : Grid.Fits ("".length + 1) (a.length + 1) := hf.symm
    exact (commonSubsequence_of_sublist hedge (List.nil_sublist _)).symm

/-- `BB` lies in `ABCB` only with a gap.  `ABCBDAB` and `BDCABA` have several longest common
subsequences; the walk takes one, and takes it again. -/
theorem commonSubsequence_absorbs_gap :
    Grid.Fits ("BB".length + 1) ("ABCB".length + 1)
      ∧ commonSubsequence "BB" "ABCB" = .ok "BB" ∧ commonSubsequence "ABCB" "BB" = .ok "BB"
      ∧ Grid.Fits ("ABCBDAB".length + 1) ("BDCABA".length + 1)
      ∧ commonSubsequence "ABCBDAB" "BDCABA" = .ok "BCBA"
      ∧ commonSubsequence "BCBA" "ABCBDAB" = .ok "BCBA"
      ∧ commonSubsequence "BDCABA" "BCBA" = .ok "BCBA"
      ∧ Grid.Fits ("BB".length + 1) ("BB".length + 1) ∧ commonSubsequence "BB" "BB" = .ok "BB"
      ∧ Grid.Fits ("BB".length + 1) 1 ∧ commonSubsequence "BB" "" = .ok "" := by
  obtain ⟨hpair, hboth, hself, hempty⟩ := commonSubsequence_absorbs
  have hgap : Grid.Fits ("BB".length + 1) ("ABCB".length + 1) := by decide
  have htie : Grid.Fits ("ABCBDAB".length + 1) ("BDCABA".length + 1) := by decide
  have hsquare : Grid.Fits ("BB".length + 1) ("BB".length + 1) := by decide
  have hedge : Grid.Fits ("BB".length + 1) 1 := by decide
  have hsub : "BB".toList.Sublist "ABCB".toList := by decide
  obtain ⟨hiff, hback⟩ := hpair "BB" "ABCB" hgap
  obtain ⟨s, hs, hsa, _, _, hbs⟩ := hboth "ABCBDAB" "BDCABA" htie
  have hchosen : chosen ['A', 'B', 'C', 'B', 'D', 'A', 'B'] ['B', 'D', 'C', 'A', 'B', 'A']
      = ['B', 'C', 'B', 'A'] := by cbv
  obtain rfl : s = "BCBA" :=
    Except.ok.inj (hs.symm.trans (commonSubsequence_of_chosen htie hchosen))
  exact ⟨hgap, hiff.2 hsub, hback hsub, htie, hs, hsa, hbs, hsquare, hself "BB" hsquare, hedge,
    (hempty "BB" hedge).1⟩

end Strings

end CommonSubsequence
