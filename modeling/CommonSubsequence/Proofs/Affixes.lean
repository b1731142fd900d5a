/-
  CommonSubsequence.Proofs.Affixes — common beginnings and endings pass through the walk.

  A common ending is matched by the first moves of the walk, and what is left is the walk over the
  rest.  A common beginning is not: the walk may match its elements at later rows, and all cells
  change with it.  But a longest common sublist of two lists with the same first element begins
  with that element, and dropping it keeps the order in which the longest ones come, so the least
  one is still the one that is selected.

  Main results:
    * `chosen_append_right` — a common ending.
    * `chosen_cons`, `chosen_append_left` — a common beginning.
    * `commonSubsequence_affixes` — the law for strings.
-/
import CommonSubsequence.Proofs.Leftmost
import Mathlib.Data.List.Basic

namespace CommonSubsequence

variable {α : Type} {xs ys us ws : List α}

/-! ## §1. One element in front. -/

theorem Sooner.of_cons {x : α} (h : Sooner (x :: xs) (x :: us) (x :: ws)) : Sooner xs us ws := by
  obtain ⟨k, hk, ⟨r, hus, hws⟩, hlater⟩ := h
  rw [List.length_cons] at hk
  rw [List.take_succ_cons] at hus hws
  cases r with
  | zero => simp at hus
  | succ r =>
    rw [List.take_succ_cons, List.cons_sublist_cons] at hus hws
    cases k with
    | zero =>
      -- the common first element decides nothing
      exact absurd (by rw [List.take_zero]; exact List.nil_sublist _) hws
    | succ k =>
      refine ⟨k, by omega, ⟨r, hus, hws⟩, ?_⟩
      intro j hkj hj r'
      have hiff := hlater (j + 1) (by omega) (by rw [List.length_cons]; omega) (r' + 1)
      rw [List.take_succ_cons, List.take_succ_cons, List.take_succ_cons, List.cons_sublist_cons,
        List.cons_sublist_cons] at hiff
      exact hiff

/-- The same element in front of both lists goes in front of what is longest. -/
theorem Longest.cons (h : Longest xs ys ws) (x : α) : Longest (x :: xs) (x :: ys) (x :: ws) := by
  refine ⟨h.left.cons_cons x, h.right.cons_cons x, ?_⟩
  intro us hux huy
  have htail := h.bound us.tail hux.tail huy.tail
  rw [List.length_tail] at htail
  rw [List.length_cons]
  omega

/-- A longest common sublist begins with the element that both lists begin with. -/
theorem Longest.exists_cons {x : α} (h : Longest (x :: xs) (x :: ys) us) (hw : Longest xs ys ws) :
    ∃ vs, us = x :: vs ∧ Longest xs ys vs := by
  have hlen : us.length = ws.length + 1 := h.length_eq (hw.cons x)
  have hcons : ∃ vs, us = x :: vs := by
    apply Classical.byContradiction
    intro hnot
    -- otherwise it lies in both tails, where no list is that long
    have htail : ∀ {l : List α}, us.Sublist (x :: l) → us.Sublist l := by
      intro l hl
      rcases List.sublist_cons_iff.1 hl with hl | ⟨vs, rfl, _⟩
      · exact hl
      · exact absurd ⟨vs, rfl⟩ hnot
    have hle := hw.bound us (htail h.left) (htail h.right)
    omega
  obtain ⟨vs, rfl⟩ := hcons
  refine ⟨vs, rfl, h.left.tail, h.right.tail, ?_⟩
  intro vs' hx hy
  have hle := hw.bound vs' hx hy
  rw [List.length_cons] at hlen
  omega

variable [DecidableEq α]

/-- **An element in front of both lists is in front of the chosen list.** -/
theorem chosen_cons (xs ys : List α) (x : α) : chosen (x :: xs) (x :: ys) = x :: chosen xs ys := by
  have hlongest := chosen_longest xs ys
  obtain ⟨vs, hvs, hlong⟩ := (chosen_longest (x :: xs) (x :: ys)).exists_cons hlongest
  -- `x :: chosen xs ys` competes with the chosen list of the longer lists, and the tail of that
  -- list competes with `chosen xs ys`
  rcases chosen_least (hlongest.cons x) with heq | hsooner
  · exact heq.symm
  · rw [hvs] at hsooner ⊢
    rcases chosen_least hlong with heq | hsooner'
    · rw [heq]
    · exact absurd hsooner.of_cons (hsooner'.asymm (hlongest.length_eq hlong))

/-- A common beginning is chosen whole. -/
theorem chosen_append_left (ps xs ys : List α) :
    chosen (ps ++ xs) (ps ++ ys) = ps ++ chosen xs ys := by
  induction ps with
  | nil => rfl
  | cons p ps ih => rw [List.cons_append, List.cons_append, chosen_cons, ih, List.cons_append]

/-! ## §2. One element at the end. -/

/-- The walk from a cell sees the beginnings of the lists only. -/
theorem picked_append {r c : Nat} (hr : r ≤ xs.length) (hc : c ≤ ys.length) (us ws : List α) :
    picked (xs ++ us) (ys ++ ws) r c = picked xs ys r c := by
  have hverdicts : ∀ i < r, ∀ j < c,
      equalities (xs ++ us) (ys ++ ws) i j = equalities xs ys i j := by
    intro i hi j hj
    rw [Bool.eq_iff_iff, equalities_iff, equalities_iff, List.getElem?_append_left (by omega),
      List.getElem?_append_left (by omega)]
  unfold picked
  rw [Verdicts.pairs_congr hverdicts]
  refine List.filterMap_congr fun q hq => ?_
  obtain ⟨hrow, _, _⟩ := Verdicts.mem_pairs hq
  exact List.getElem?_append_left (by omega)

/-- An element at the end of both lists is the first match of the walk. -/
theorem chosen_snoc (xs ys : List α) (x : α) :
    chosen (xs ++ [x]) (ys ++ [x]) = chosen xs ys ++ [x] := by
  have hx : (xs ++ [x])[xs.length]? = some x := List.getElem?_concat_length
  have hy : (ys ++ [x])[ys.length]? = some x := List.getElem?_concat_length
  unfold chosen
  rw [List.length_append, List.length_append, List.length_singleton, picked_of_match hx hy,
    picked_append (Nat.le_refl _) (Nat.le_refl _)]

/-- **A common ending is the ending of the chosen list.** -/
theorem chosen_append_right (ts xs ys : List α) :
    chosen (xs ++ ts) (ys ++ ts) = chosen xs ys ++ ts := by
  induction ts generalizing xs ys with
  | nil => rw [List.append_nil, List.append_nil, List.append_nil]
  | cons t ts ih =>
    have hassoc : ∀ l : List α, l ++ t :: ts = l ++ [t] ++ ts := by
      intro l
      rw [List.append_assoc]
      rfl
    rw [hassoc xs, hassoc ys, ih, chosen_snoc, ← hassoc]

/-! ## §3. Strings. -/

/-- **Trimming common affixes never changes the answer**: the same string is selected among the
longest ones, and not only one of the same length. -/
theorem commonSubsequence_affixes {p a b t : String}
    (hf : Grid.Fits ((p ++ a ++ t).length + 1) ((p ++ b ++ t).length + 1)) :
    ∃ s, commonSubsequence a b = .ok s
      ∧ commonSubsequence (p ++ a ++ t) (p ++ b ++ t) = .ok (p ++ s ++ t) := by
  have hlen : ∀ x : String, x.length + 1 ≤ (p ++ x ++ t).length + 1 := by
    intro x
    rw [String.length_append, String.length_append]
    omega
  refine ⟨_, commonSubsequence_eq (hf.mono (hlen a) (hlen b)), ?_⟩
  rw [commonSubsequence_eq hf]
  congr 1
  apply String.toList_injective
  rw [String.toList_ofList, String.toList_append, String.toList_append, String.toList_append,
    String.toList_append, String.toList_append, String.toList_append, String.toList_ofList,
    chosen_append_right, chosen_append_left]

/-- The character of the beginning occurs again in the rows, where the walk meets it first. -/
theorem commonSubsequence_affixes_repeated :
    Grid.Fits (("A" ++ "BA" ++ "ñ").length + 1) (("A" ++ "AB" ++ "ñ").length + 1)
      ∧ ∃ s, commonSubsequence "BA" "AB" = .ok s
        ∧ commonSubsequence ("A" ++ "BA" ++ "ñ") ("A" ++ "AB" ++ "ñ") = .ok ("A" ++ s ++ "ñ") := by
  have hfits : Grid.Fits (("A" ++ "BA" ++ "ñ").length + 1) (("A" ++ "AB" ++ "ñ").length + 1) := by
    decide
  exact ⟨hfits, commonSubsequence_affixes hfits⟩

end CommonSubsequence
