/-
  CommonSubsequence.Proofs.Distance — how far apart two strings are.

  The distance of two strings counts the characters of both that a longest common subsequence
  leaves out.  It is a metric.  The triangle inequality compares three grids over three unrelated
  pairs of strings; what ties them together is the middle string: two of its sublists share at
  least as many elements as their lengths exceed its own.

  Main results:
    * `exists_shared_sublist` — two sublists of one list share a long list.
    * `chosen_triangle` — the common lengths along a middle list.
    * `distance_metric` — the laws of a metric, for the distance of strings.
-/
import CommonSubsequence.Proofs.Selection

namespace CommonSubsequence

/-! ## §1. Two sublists of one list. -/

section Lists

variable {α : Type}

/-- Two sublists of one list have a sublist in common that makes up for what their lengths exceed
the length of that list. -/
theorem exists_shared_sublist {us vs ys : List α} (hus : us.Sublist ys) (hvs : vs.Sublist ys) :
    ∃ ws : List α, ws.Sublist us ∧ ws.Sublist vs
      ∧ us.length + vs.length ≤ ws.length + ys.length := by
  induction ys generalizing us vs with
  | nil =>
    rw [List.sublist_nil.1 hus, List.sublist_nil.1 hvs]
    exact ⟨[], List.nil_sublist _, List.nil_sublist _, Nat.le_refl _⟩
  | cons y ys ih =>
    -- an element of the list is shared exactly if both sublists take it
    rcases List.sublist_cons_iff.1 hus with hu | ⟨us', rfl, hu⟩
    · rcases List.sublist_cons_iff.1 hvs with hv | ⟨vs', rfl, hv⟩
      · obtain ⟨ws, hwu, hwv, hlen⟩ := ih hu hv
        refine ⟨ws, hwu, hwv, ?_⟩
        rw [List.length_cons]
        omega
      · obtain ⟨ws, hwu, hwv, hlen⟩ := ih hu hv
        refine ⟨ws, hwu, hwv.cons y, ?_⟩
        rw [List.length_cons, List.length_cons]
        omega
    · rcases List.sublist_cons_iff.1 hvs with hv | ⟨vs', rfl, hv⟩
      · obtain ⟨ws, hwu, hwv, hlen⟩ := ih hu hv
        refine ⟨ws, hwu.cons y, hwv, ?_⟩
        rw [List.length_cons, List.length_cons]
        omega
      · obtain ⟨ws, hwu, hwv, hlen⟩ := ih hu hv
        refine ⟨y :: ws, hwu.cons_cons y, hwv.cons_cons y, ?_⟩
        rw [List.length_cons, List.length_cons, List.length_cons, List.length_cons]
        omega

/-! ## §2. Common lengths of lists. -/

variable [DecidableEq α]

/-- The chosen list is no longer than either list. -/
theorem length_chosen_le (xs ys : List α) :
    (chosen xs ys).length ≤ xs.length ∧ (chosen xs ys).length ≤ ys.length := by
  obtain ⟨hx, hy, _⟩ := chosen_longest xs ys
  exact ⟨hx.length_le, hy.length_le⟩

/-- Only equal lists have a common sublist as long as both. -/
theorem length_chosen_eq_iff (xs ys : List α) :
    xs.length + ys.length = 2 * (chosen xs ys).length ↔ xs = ys := by
  obtain ⟨hx, hy, hbound⟩ := chosen_longest xs ys
  constructor
  · intro hlen
    have hxle := hx.length_le
    have hyle := hy.length_le
    calc xs = chosen xs ys := (hx.eq_of_length (by omega)).symm
      _ = ys := hy.eq_of_length (by omega)
  · intro h
    subst h
    have hself := hbound xs (List.Sublist.refl xs) (List.Sublist.refl xs)
    have hxle := hx.length_le
    omega

/-- The common length does not depend on which list comes first. -/
theorem length_chosen_comm (xs ys : List α) : (chosen xs ys).length = (chosen ys xs).length := by
  obtain ⟨hy, hx, hbound⟩ := chosen_longest ys xs
  exact (chosen_longest xs ys).length_eq ⟨hx, hy, fun us hus hus' => hbound us hus' hus⟩

/-- **Common lengths along a middle list.**  What both alignments use of the middle list is
aligned by composing them. -/
theorem chosen_triangle (xs ys zs : List α) :
    (chosen xs ys).length + (chosen ys zs).length ≤ (chosen xs zs).length + ys.length := by
  obtain ⟨hx, hy, _⟩ := chosen_longest xs ys
  obtain ⟨hy', hz, _⟩ := chosen_longest ys zs
  obtain ⟨ws, hleft, hright, hlen⟩ := exists_shared_sublist hy hy'
  have hbound := (chosen_longest xs zs).bound ws (hleft.trans hx) (hright.trans hz)
  omega

end Lists

/-! ## §3. Strings. -/

/-- How many characters of two strings a longest common subsequence of them leaves out. -/
def distance (a b : String) : Except Fault Int := do
  let k ← commonLength a b
  pure (a.length + b.length - 2 * k)

/-- The distance counts what the chosen list leaves out of the two strings. -/
theorem distance_eq {a b : String} (hf : Grid.Fits (a.length + 1) (b.length + 1)) :
    distance a b
      = .ok (a.length + b.length - 2 * ((chosen a.toList b.toList).length : Int)) := by
  unfold distance
  rw [commonLength_eq hf]
  rfl

/-- **The distance of strings is a metric**, and the triangle inequality is one about common
lengths. -/
theorem distance_metric {a b c : String} (hab : Grid.Fits (a.length + 1) (b.length + 1))
    (hbc : Grid.Fits (b.length + 1) (c.length + 1))
    (hac : Grid.Fits (a.length + 1) (c.length + 1)) :
    ∃ dab dbc dac kab kbc kac,
      distance a b = .ok dab ∧ distance b c = .ok dbc ∧ distance a c = .ok dac
      ∧ commonLength a b = .ok kab ∧ commonLength b c = .ok kbc ∧ commonLength a c = .ok kac
      ∧ 0 ≤ dab ∧ (dab = 0 ↔ a = b) ∧ distance b a = .ok dab
      ∧ dac ≤ dab + dbc ∧ kab + kbc ≤ kac + b.length := by
  have hle := length_chosen_le a.toList b.toList
  have htriangle := chosen_triangle a.toList b.toList c.toList
  have hla : a.toList.length = a.length := String.length_toList
  have hlb : b.toList.length = b.length := String.length_toList
  rw [hla, hlb] at hle
  rw [hlb] at htriangle
  refine ⟨_, _, _, _, _, _, distance_eq hab, distance_eq hbc, distance_eq hac,
    commonLength_eq hab, commonLength_eq hbc, commonLength_eq hac, ?_, ?_, ?_, ?_, htriangle⟩
  · omega
  · rw [← String.toList_inj, ← length_chosen_eq_iff, hla, hlb]
    omega
  · rw [distance_eq hab.symm, length_chosen_comm b.toList a.toList, Int.add_comm]
  · omega

/-- The middle string is as far from both ends as they are from each other. -/
theorem distance_metric_kitten :
    Grid.Fits ("kitten".length + 1) ("sitten".length + 1)
      ∧ Grid.Fits ("sitten".length + 1) ("sitting".length + 1)
      ∧ Grid.Fits ("kitten".length + 1) ("sitting".length + 1)
      ∧ ∃ dab dbc dac, distance "kitten" "sitten" = .ok dab ∧ distance "sitten" "sitting" = .ok dbc
        ∧ distance "kitten" "sitting" = .ok dac ∧ 0 ≤ dab ∧ (dab = 0 ↔ "kitten" = "sitten")
        ∧ distance "sitten" "kitten" = .ok dab ∧ dac ≤ dab + dbc := by
  have hab : Grid.Fits ("kitten".length + 1) ("sitten".length + 1) := by decide
  have hbc : Grid.Fits ("sitten".length + 1) ("sitting".length + 1) := by decide
  have hac : Grid.Fits ("kitten".length + 1) ("sitting".length + 1) := by decide
  obtain ⟨dab, dbc, dac, _, _, _, h₁, h₂, h₃, _, _, _, hpos, hzero, hsymm, htri, _⟩ :=
    distance_metric hab hbc hac
  exact ⟨hab, hbc, hac, dab, dbc, dac, h₁, h₂, h₃, hpos, hzero, hsymm, htri⟩

end CommonSubsequence
