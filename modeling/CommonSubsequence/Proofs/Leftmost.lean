/-
  CommonSubsequence.Proofs.Leftmost — which longest common subsequence the walk selects.

  A list may have many longest sublists in common with another one.  The walk selects the one
  whose leftmost positions in the rows are least, compared from the last position to the first.

  The proof does not look at positions.  That the first `k + 1` elements of a list lie in a
  beginning of the rows says where its leftmost embedding has its `k`-th position, so embeddings
  are compared through beginnings (`Sooner`).  Along the walk, the selected list of a corner comes
  sooner than every other longest one of that corner: a longest list that needs the last row is
  later than one that does not, and a longest list that needs the last column only is excluded by
  the cell above.

  Main results:
    * `leftmostFrom_spec` — positions of the leftmost embedding, from beginnings.
    * `picked_least` — the invariant along the walk.
    * `commonSubsequence_least` — the law for strings.
-/
import CommonSubsequence.Alignment.Embedding
import CommonSubsequence.Proofs.Selection

namespace CommonSubsequence

variable {α : Type} {xs ys us ws : List α}

/-! ## §1. Comparison through beginnings. -/

/-- At the last place where it matters, the first list is complete in a shorter beginning of `xs`
than the second one. -/
def Sooner (xs us ws : List α) : Prop :=
  ∃ k < us.length,
    (∃ r, (us.take (k + 1)).Sublist (xs.take r) ∧ ¬ (ws.take (k + 1)).Sublist (xs.take r))
    ∧ ∀ j, k < j → j < us.length →
      ∀ r, (us.take (j + 1)).Sublist (xs.take r) ↔ (ws.take (j + 1)).Sublist (xs.take r)

/-- Of two lists at most one is found sooner than the other. -/
theorem Sooner.asymm (h : Sooner xs us ws) (hlen : us.length = ws.length) :
    ¬ Sooner xs ws us := by
  intro hback
  obtain ⟨k', hk', ⟨r', hws', hus'⟩, hlater'⟩ := hback
  obtain ⟨k, hk, ⟨r, hus, hws⟩, hlater⟩ := h
  -- at the later of the two places the other comparison finds both lists alike
  rcases Nat.lt_trichotomy k k' with hlt | rfl | hlt
  · exact hus' ((hlater k' hlt (by omega) r').2 hws')
  · rcases Nat.le_total r r' with hle | hle
    · exact hus' (sublist_take_mono hus hle)
    · exact hws (sublist_take_mono hws' hle)
  · exact hws ((hlater' k hlt (by omega) r).2 hus)

/-- A list that comes sooner is complete in every beginning in which the other one is. -/
theorem Sooner.complete (h : Sooner xs us ws) (hlen : us.length = ws.length) {r : Nat}
    (hws : ws.Sublist (xs.take r)) : us.Sublist (xs.take r) := by
  obtain ⟨k, hk, ⟨r', hus, hnot⟩, hlater⟩ := h
  have hlast : ∀ vs : List α, vs.length = us.length → vs.take (us.length - 1 + 1) = vs := by
    intro vs hvs
    exact List.take_of_length_le (by omega)
  -- the last element decides about the whole list
  by_cases hk' : k = us.length - 1
  · subst hk'
    rw [hlast us rfl] at hus
    rw [hlast ws hlen.symm] at hnot
    rcases Nat.le_total r' r with hle | hle
    · exact sublist_take_mono hus hle
    · exact absurd (sublist_take_mono hws hle) hnot
  · have hiff := hlater (us.length - 1) (by omega) (by omega) r
    rw [hlast us rfl, hlast ws hlen.symm] at hiff
    exact hiff.2 hws

/-! ## §2. How the comparison arises. -/

/-- Of two lists of one length, the one that lies in a beginning comes sooner than the one that
needs more. -/
theorem sooner_of_needs {r : Nat} (hlen : us.length = ws.length) (hus : us.Sublist (xs.take r))
    (hws : ¬ ws.Sublist (xs.take r)) : Sooner xs us ws := by
  have hpos : 0 < us.length := by
    apply Nat.pos_of_ne_zero
    intro hzero
    have hnil : ws = [] := List.eq_nil_of_length_eq_zero (by omega)
    rw [hnil] at hws
    exact hws (List.nil_sublist _)
  refine ⟨us.length - 1, by omega, ⟨r, ?_, ?_⟩, ?_⟩
  · rw [List.take_of_length_le (by omega)]
    exact hus
  · rw [List.take_of_length_le (by omega)]
    exact hws
  · intro j hj hj'
    omega

/-- If one list is complete wherever another one is, one more element does not change that. -/
theorem complete_snoc {x : α} (h : ∀ r, ws.Sublist (xs.take r) → us.Sublist (xs.take r)) (r : Nat)
    (hws : (ws ++ [x]).Sublist (xs.take r)) : (us ++ [x]).Sublist (xs.take r) := by
  induction r with
  | zero => simp at hws
  | succ r ih =>
    rw [List.take_add_one] at hws ⊢
    cases hx : xs[r]? with
    | none =>
      rw [hx, Option.toList_none, List.append_nil] at hws
      rw [Option.toList_none, List.append_nil]
      exact ih hws
    | some y =>
      rw [hx, Option.toList_some, sublist_snoc_iff] at hws
      rw [Option.toList_some, sublist_snoc_iff]
      rcases hws with hws | ⟨vs, he, hvs⟩
      · exact Or.inl (ih hws)
      · obtain ⟨rfl, hxy⟩ := List.append_inj' he rfl
        rw [hxy]
        exact Or.inr ⟨us, rfl, h r hvs⟩

/-- The same element behind both lists does not change which is found sooner. -/
theorem Sooner.snoc (h : Sooner xs us ws) (hlen : us.length = ws.length) (x : α) :
    Sooner xs (us ++ [x]) (ws ++ [x]) := by
  have hdom := complete_snoc (x := x) fun r hws => h.complete hlen hws
  have hwhole : ∀ vs : List α, vs.length = us.length →
      (vs ++ [x]).take (us.length + 1) = vs ++ [x] := by
    intro vs hvs
    exact List.take_of_length_le (by rw [List.length_append, hvs]; exact Nat.le_refl _)
  have hfront : ∀ vs : List α, vs.length = us.length → ∀ k < us.length,
      (vs ++ [x]).take (k + 1) = vs.take (k + 1) := by
    intro vs hvs k hk
    exact List.take_append_of_le_length (by omega)
  have hsucc : (us ++ [x]).length = us.length + 1 := by
    rw [List.length_append, List.length_singleton]
  by_cases hiff : ∀ r, (us ++ [x]).Sublist (xs.take r) → (ws ++ [x]).Sublist (xs.take r)
  · -- complete in the same beginnings: the old place decides
    obtain ⟨k, hk, ⟨r, hus, hws⟩, hlater⟩ := h
    refine ⟨k, by omega, ⟨r, ?_, ?_⟩, ?_⟩
    · rw [hfront us rfl k hk]
      exact hus
    · rw [hfront ws hlen.symm k hk]
      exact hws
    · intro j hkj hj r
      by_cases hj' : j < us.length
      · rw [hfront us rfl j hj', hfront ws hlen.symm j hj']
        exact hlater j hkj hj' r
      · rw [show j = us.length from by omega, hwhole us rfl, hwhole ws hlen.symm]
        exact ⟨hiff r, hdom r⟩
  · -- the second list is complete later: the new place decides
    obtain ⟨r, hr⟩ := Classical.not_forall.1 hiff
    rw [Classical.not_imp] at hr
    refine ⟨us.length, by omega, ⟨r, ?_, ?_⟩, ?_⟩
    · rw [hwhole us rfl]
      exact hr.1
    · rw [hwhole ws hlen.symm]
      exact hr.2
    · intro j hj hj'
      omega

/-- A list that lies in two longer beginnings but not in both shorter ones ends with the element
that was added to both, and the rest lies in the shorter ones. -/
theorem exists_front {l l' : List α} {x : α} (hx : ws.Sublist (l ++ [x]))
    (hy : ws.Sublist (l' ++ [x])) (hnot : ¬ (ws.Sublist l ∧ ws.Sublist l')) :
    ∃ us, ws = us ++ [x] ∧ us.Sublist l ∧ us.Sublist l' := by
  rw [sublist_snoc_iff] at hx hy
  rcases hx with hx | ⟨us, rfl, hus⟩
  · rcases hy with hy | ⟨us, rfl, hus⟩
    · exact absurd ⟨hx, hy⟩ hnot
    · exact ⟨us, rfl, (List.sublist_append_left us [x]).trans hx, hus⟩
  · rcases hy with hy | ⟨us', he, hus'⟩
    · exact ⟨us, rfl, hus, (List.sublist_append_left us [x]).trans hy⟩
    · obtain ⟨rfl, _⟩ := List.append_inj' he rfl
      exact ⟨us, rfl, hus, hus'⟩

variable [DecidableEq α]

/-! ## §3. Positions and beginnings. -/

theorem length_leftmostFrom {i : Nat} {ps : List Nat}
    (h : leftmostFrom i xs ws = some ps) : ps.length = ws.length := by
  fun_induction leftmostFrom i xs ws generalizing ps with
  | case1 i xs =>
    rw [Option.some.injEq] at h
    rw [← h]
    rfl
  | case2 i w ws => simp at h
  | case3 i x xs ws ih =>
    obtain ⟨qs, hqs, rfl⟩ := Option.map_eq_some_iff.1 h
    rw [List.length_cons, List.length_cons, ih hqs]
  | case4 i x xs w ws _ ih => exact ih h

/-- No position lies in front of the list. -/
theorem le_of_leftmostFrom {i k p : Nat} {ps : List Nat}
    (h : leftmostFrom i xs ws = some ps) (hk : ps[k]? = some p) : i ≤ p := by
  fun_induction leftmostFrom i xs ws generalizing ps k with
  | case1 i xs =>
    rw [Option.some.injEq] at h
    simp [← h] at hk
  | case2 i w ws => simp at h
  | case3 i x xs ws ih =>
    obtain ⟨qs, hqs, rfl⟩ := Option.map_eq_some_iff.1 h
    cases k with
    | zero => simp at hk; omega
    | succ k =>
      have := ih hqs hk
      omega
  | case4 i x xs w ws _ ih =>
    have := ih h hk
    omega

/-- The leftmost embedding has its `k`-th position in a beginning of the list exactly if the first
`k + 1` elements lie in that beginning. -/
theorem leftmostFrom_spec {i k p : Nat} {ps : List Nat}
    (h : leftmostFrom i xs ws = some ps) (hk : ps[k]? = some p) (r : Nat) :
    (ws.take (k + 1)).Sublist (xs.take r) ↔ p < i + r := by
  have hle := le_of_leftmostFrom h hk
  fun_induction leftmostFrom i xs ws generalizing ps k r with
  | case1 i xs =>
    rw [Option.some.injEq] at h
    simp [← h] at hk
  | case2 i w ws => simp at h
  | case3 i x xs ws ih =>
    obtain ⟨qs, hqs, rfl⟩ := Option.map_eq_some_iff.1 h
    rw [List.take_succ_cons]
    cases r with
    | zero =>
      -- nothing lies in the empty beginning, and `p` does not lie in front of the list
      rw [List.take_zero, List.sublist_nil]
      exact iff_of_false (by simp) (by omega)
    | succ r =>
      rw [List.take_succ_cons, List.cons_sublist_cons]
      cases k with
      | zero =>
        obtain rfl : i = p := by simpa using hk
        exact iff_of_true (by simp) (by omega)
      | succ k =>
        -- the first element is taken at position `i`, all others lie behind it
        have hrest := ih hqs hk r (le_of_leftmostFrom hqs hk)
        exact hrest.trans (by omega)
  | case4 i x xs w ws hne ih =>
    rw [List.take_succ_cons]
    cases r with
    | zero =>
      rw [List.take_zero, List.sublist_nil]
      exact iff_of_false (by simp) (by omega)
    | succ r =>
      have hrest := ih h hk r (le_of_leftmostFrom h hk)
      rw [List.take_succ_cons] at hrest
      rw [List.take_succ_cons, List.sublist_cons_iff]
      constructor
      · intro hws
        rcases hws with hsub | ⟨us, he, _⟩
        · have := hrest.1 hsub
          omega
        · exact absurd (List.cons.inj he).1.symm hne
      · intro hlt
        exact Or.inl (hrest.2 (by omega))

/-- A list that comes sooner has the smaller leftmost positions, compared from the last one. -/
theorem Sooner.lastSmaller {ps qs : List Nat} (h : Sooner xs us ws) (hlen : us.length = ws.length)
    (hp : leftmost xs us = some ps) (hq : leftmost xs ws = some qs) : LastSmaller ps qs := by
  obtain ⟨k, hk, ⟨r, hus, hws⟩, hlater⟩ := h
  have hplen := length_leftmostFrom hp
  have hqlen := length_leftmostFrom hq
  have hpk : ps[k]? = some ps[k] := List.getElem?_eq_getElem (by omega)
  have hqk : qs[k]? = some qs[k] := List.getElem?_eq_getElem (by omega)
  refine ⟨k, ps[k], qs[k], hpk, hqk, ?_, ?_⟩
  · have hpr := (leftmostFrom_spec hp hpk r).1 hus
    have hqr := mt (leftmostFrom_spec hq hqk r).2 hws
    omega
  · intro j hkj
    by_cases hj : j < us.length
    · have hpj : ps[j]? = some ps[j] := List.getElem?_eq_getElem (by omega)
      have hqj : qs[j]? = some qs[j] := List.getElem?_eq_getElem (by omega)
      -- both positions lie in the same beginnings, so they are equal
      have hsame : ∀ r, ps[j] < 0 + r ↔ qs[j] < 0 + r := by
        intro r
        rw [← leftmostFrom_spec hp hpj r, ← leftmostFrom_spec hq hqj r]
        exact hlater j hkj hj r
      have h1 := (hsame (ps[j] + 1)).1 (by omega)
      have h2 := (hsame (qs[j] + 1)).2 (by omega)
      rw [hpj, hqj, show ps[j] = qs[j] from by omega]
    · rw [List.getElem?_eq_none (by omega), List.getElem?_eq_none (by omega)]

/-! ## §4. The walk selects the least one. -/

/-- **Among the longest lists that lie in two beginnings, the walk selects the one that comes
first**: any other one comes later in the rows. -/
theorem picked_least {r c : Nat} (hr : r ≤ xs.length) (hc : c ≤ ys.length)
    (hx : ws.Sublist (xs.take r)) (hy : ws.Sublist (ys.take c))
    (hlen : ws.length = (equalities xs ys).best r c) :
    ws = picked xs ys r c ∨ Sooner xs (picked xs ys r c) ws := by
  induction r, c using Verdicts.walk_induction (equalities xs ys) generalizing ws with
  | top c =>
    rw [Verdicts.best_zero_left, List.length_eq_zero_iff] at hlen
    rw [hlen, picked_zero_left]
    exact Or.inl rfl
  | side r =>
    rw [Verdicts.best_zero_right, List.length_eq_zero_iff] at hlen
    rw [hlen, picked_zero_right]
    exact Or.inl rfl
  | matched i j hv ih =>
    obtain ⟨x, hxi, hyj⟩ := equalities_iff.1 hv
    rw [Verdicts.best_of_match hv] at hlen
    rw [take_succ_eq hxi] at hx
    rw [take_succ_eq hyj] at hy
    -- a list that lies in both shorter beginnings would be too short
    obtain ⟨us, rfl, hus, hus'⟩ := exists_front hx hy (by
      intro hboth
      obtain ⟨hl, hl'⟩ := hboth
      have := length_le_best (by omega) (by omega) hl hl'
      omega)
    rw [List.length_append, List.length_singleton] at hlen
    rw [picked_of_match hxi hyj]
    rcases ih (by omega) (by omega) hus hus' (by omega) with rfl | hlater
    · exact Or.inl rfl
    · exact Or.inr (hlater.snoc (by rw [length_picked]; omega) x)
  | left i j hv hlt ih =>
    rw [Verdicts.best_of_mismatch hv, Nat.max_eq_right (Nat.le_of_lt hlt)] at hlen
    rw [picked_of_left hv hlt]
    rcases sublist_or_of_mismatch (by omega) (by omega) hv hx hy with hx | hy
    · -- without the last row no list is as long as the cell to the left counts
      exfalso
      have hle := length_le_best (by omega) hc hx hy
      omega
    · exact ih hr (by omega) hx hy hlen
  | up i j hv hle ih =>
    rw [Verdicts.best_of_mismatch hv, Nat.max_eq_left hle] at hlen
    rw [picked_of_up hv hle]
    by_cases hxi : ws.Sublist (xs.take i)
    · exact ih (by omega) hc hxi hy hlen
    · -- the list needs the last row, which the selected one does without
      have hpicked := (picked_sublist xs ys i (j + 1)).1
      exact Or.inr (sooner_of_needs (by rw [length_picked, hlen]) hpicked hxi)

/-- The chosen list comes sooner in the rows than every other longest one. -/
theorem chosen_least (h : Longest xs ys ws) : ws = chosen xs ys ∨ Sooner xs (chosen xs ys) ws := by
  have hlen : ws.length = (chosen xs ys).length := h.length_eq (chosen_longest xs ys)
  have hx : ws.Sublist (xs.take xs.length) := by rw [List.take_length]; exact h.left
  have hy : ws.Sublist (ys.take ys.length) := by rw [List.take_length]; exact h.right
  exact picked_least (Nat.le_refl _) (Nat.le_refl _) hx hy
    (by rw [hlen]; exact length_picked _ _ _ _)

/-! ## §5. Strings. -/

/-- **Which longest common subsequence is returned.**  The returned string is a common subsequence
of the greatest length, and every other one has its leftmost embedding in the first string later,
when positions are compared from the last to the first. -/
theorem commonSubsequence_least {a b : String} (hf : Grid.Fits (a.length + 1) (b.length + 1)) :
    ∃ s, commonSubsequence a b = .ok s
      ∧ s.toList.Sublist a.toList ∧ s.toList.Sublist b.toList
      ∧ (∀ w : String, w.toList.Sublist a.toList → w.toList.Sublist b.toList →
        w.length ≤ s.length)
      ∧ ∀ w : String, w.toList.Sublist a.toList → w.toList.Sublist b.toList →
        w.length = s.length →
          w = s ∨ ∃ ps qs, leftmost a.toList s.toList = some ps
            ∧ leftmost a.toList w.toList = some qs ∧ LastSmaller ps qs := by
  have hlongest := chosen_longest a.toList b.toList
  obtain ⟨hleft, hright, hbound⟩ := hlongest
  refine ⟨_, commonSubsequence_eq hf, ?_, ?_, ?_, ?_⟩
  · rw [String.toList_ofList]
    exact hleft
  · rw [String.toList_ofList]
    exact hright
  · intro w hwa hwb
    rw [String.length_ofList]
    exact hbound w.toList hwa hwb
  · intro w hwa hwb hlen
    rw [String.length_ofList] at hlen
    have hlen : w.toList.length = (chosen a.toList b.toList).length := hlen
    have hw : Longest a.toList b.toList w.toList :=
      ⟨hwa, hwb, fun us hus hus' => hlen ▸ hbound us hus hus'⟩
    rcases chosen_least hw with heq | hsooner
    · left
      rw [← heq, String.ofList_toList]
    · right
      obtain ⟨ps, hps⟩ := Option.isSome_iff_exists.1 (isSome_leftmost.2 hleft)
      obtain ⟨qs, hqs⟩ := Option.isSome_iff_exists.1 (isSome_leftmost.2 hwa)
      rw [String.toList_ofList]
      exact ⟨ps, qs, hps, hqs, hsooner.lastSmaller hlen.symm hps hqs⟩

/-- Two longest common subsequences compete here: `CA` ends sooner in the first string than
`CB`. -/
theorem commonSubsequence_least_tie :
    Grid.Fits ("ACADB".length + 1) ("CBDA".length + 1)
      ∧ ∃ s, commonSubsequence "ACADB" "CBDA" = .ok s
        ∧ ∀ w : String, w.toList.Sublist "ACADB".toList → w.toList.Sublist "CBDA".toList →
          w.length = s.length →
            w = s ∨ ∃ ps qs, leftmost "ACADB".toList s.toList = some ps
              ∧ leftmost "ACADB".toList w.toList = some qs ∧ LastSmaller ps qs := by
  have hfits : Grid.Fits ("ACADB".length + 1) ("CBDA".length + 1) := by decide
  obtain ⟨s, hs, _, _, _, hleast⟩ := commonSubsequence_least hfits
  exact ⟨hfits, s, hs, hleast⟩

end CommonSubsequence
