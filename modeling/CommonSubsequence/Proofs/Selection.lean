/-
  CommonSubsequence.Proofs.Selection — the elements that the walk over two lists selects.

  Between equal elements the two sides of a recorded pair are the same, so the walk over two lists
  selects one list that lies in both.  Its length is the common length, and no list that lies in
  both is longer.

  Main results:
    * `length_le_best` — the common length bounds every common sublist.
    * `chosen_longest` — the selected list is a longest common sublist.
    * `commonSubsequence_eq` — strings are answered with the selected list of their characters.
    * `walk_agrees_with_grid` — the walk and the grid agree, for any verdict and for strings.
-/
import CommonSubsequence.Proofs.Backtracking

namespace CommonSubsequence

variable {α : Type}

/-! ## §1. Sublists of beginnings. -/

/-- A list that lies in a longer one either does without the last element or ends with it. -/
theorem sublist_snoc_iff {ws l : List α} {x : α} :
    ws.Sublist (l ++ [x]) ↔ ws.Sublist l ∨ ∃ us, ws = us ++ [x] ∧ us.Sublist l := by
  rw [List.sublist_append_iff]
  constructor
  · intro hsplit
    obtain ⟨us, vs, rfl, hus, hvs⟩ := hsplit
    rcases List.sublist_cons_iff.1 hvs with hnil | ⟨ts, rfl, hts⟩
    · rw [List.sublist_nil.1 hnil, List.append_nil]
      exact Or.inl hus
    · rw [List.sublist_nil.1 hts]
      exact Or.inr ⟨us, rfl, hus⟩
  · intro hws
    rcases hws with h | ⟨us, rfl, hus⟩
    · exact ⟨ws, [], (List.append_nil ws).symm, h, List.nil_sublist [x]⟩
    · exact ⟨us, [x], rfl, hus, List.Sublist.refl [x]⟩

/-- Without its last element a list lies in what is in front of the other last element. -/
theorem dropLast_sublist_of_snoc {ws l : List α} {x : α} (h : ws.Sublist (l ++ [x])) :
    ws.dropLast.Sublist l := by
  rcases sublist_snoc_iff.1 h with h | ⟨us, rfl, hus⟩
  · exact (List.dropLast_sublist ws).trans h
  · rw [List.dropLast_concat]
    exact hus

theorem take_succ_eq {xs : List α} {i : Nat} {x : α} (hx : xs[i]? = some x) :
    xs.take (i + 1) = xs.take i ++ [x] := by
  rw [List.take_add_one, hx, Option.toList_some]

theorem sublist_take_mono {ws xs : List α} {r r' : Nat} (h : ws.Sublist (xs.take r))
    (hr : r ≤ r') : ws.Sublist (xs.take r') :=
  h.trans (List.take_sublist_take_left hr)

/-- A longest one of the lists that lie in both lists. -/
structure Longest (xs ys ws : List α) : Prop where
  left : ws.Sublist xs
  right : ws.Sublist ys
  bound : ∀ us : List α, us.Sublist xs → us.Sublist ys → us.length ≤ ws.length

/-- The longest lists are of one length. -/
theorem Longest.length_eq {xs ys us ws : List α} (h : Longest xs ys us) (h' : Longest xs ys ws) :
    us.length = ws.length :=
  Nat.le_antisymm (h'.bound us h.left h.right) (h.bound ws h'.left h'.right)

/-! ## §2. The elements that a path selects. -/

/-- If something is found for every element, the finds stand where the elements do. -/
theorem getElem?_filterMap_of_isSome {β : Type} {f : β → Option α} {l : List β}
    (h : ∀ x ∈ l, (f x).isSome) (i : Nat) : (l.filterMap f)[i]? = l[i]?.bind f := by
  induction l generalizing i with
  | nil => simp
  | cons x l ih =>
    obtain ⟨y, hy⟩ := Option.isSome_iff_exists.1 (h x List.mem_cons_self)
    rw [List.filterMap_cons_some hy]
    cases i with
    | zero => simp [hy]
    | succ i =>
      rw [List.getElem?_cons_succ, List.getElem?_cons_succ]
      exact ih (fun z hz => h z (List.mem_cons_of_mem x hz)) i

/-- What a path selects, as long as it names rows that exist. -/
theorem Path.items_through {path : Path} {rows : Indexed α}
    (h : ∀ q ∈ path.pairs, (rows.get? q.row).isSome) :
    (path.through rows).items = path.pairs.filterMap fun q => rows.get? q.row := by
  refine (lawful_through h).items_eq fun i => ?_
  rw [get?_through]
  exact getElem?_filterMap_of_isSome h i

/-! ## §3. The problem of two lists. -/

variable [DecidableEq α]

/-- The elements of two lists under equality. -/
def Problem.ofLists (xs ys : List α) : Problem α α where
  rows := Indexed.ofList xs
  columns := Indexed.ofList ys
  agree x y := x == y

/-- The verdicts of equality on the elements of two lists. -/
abbrev equalities (xs ys : List α) : Verdicts :=
  (Problem.ofLists xs ys).verdicts

/-- A verdict is positive if one element stands at both positions. -/
theorem equalities_iff {xs ys : List α} {i j : Nat} :
    equalities xs ys i j = true ↔ ∃ x, xs[i]? = some x ∧ ys[j]? = some x := by
  have hmatch := Problem.matches_iff (p := Problem.ofLists xs ys) (q := ⟨i, j⟩)
  rw [show equalities xs ys i j = true ↔ _ from hmatch.symm]
  have hrow : (Problem.ofLists xs ys).rows.get? i = xs[i]? := Indexed.get?_ofList xs i
  have hcolumn : (Problem.ofLists xs ys).columns.get? j = ys[j]? := Indexed.get?_ofList ys j
  constructor
  · intro hq
    obtain ⟨x, hx, y, hy, hxy⟩ := hq
    obtain rfl : x = y := eq_of_beq hxy
    exact ⟨x, hrow.symm.trans hx, hcolumn.symm.trans hy⟩
  · intro hxy
    obtain ⟨x, hx, hy⟩ := hxy
    exact ⟨x, hrow.trans hx, x, hcolumn.trans hy, beq_self_eq_true x⟩

/-! ## §4. Common lengths of lists. -/

/-- Where the last elements of two beginnings differ, a list that lies in both does without one
of them. -/
theorem sublist_or_of_mismatch {xs ys ws : List α} {i j : Nat} (hi : i < xs.length)
    (hj : j < ys.length) (hv : equalities xs ys i j = false) (hx : ws.Sublist (xs.take (i + 1)))
    (hy : ws.Sublist (ys.take (j + 1))) : ws.Sublist (xs.take i) ∨ ws.Sublist (ys.take j) := by
  have hxi : xs[i]? = some xs[i] := List.getElem?_eq_getElem hi
  have hyj : ys[j]? = some ys[j] := List.getElem?_eq_getElem hj
  rw [take_succ_eq hxi, sublist_snoc_iff] at hx
  rw [take_succ_eq hyj, sublist_snoc_iff] at hy
  rcases hx with hx | ⟨us, hus, _⟩
  · exact Or.inl hx
  rcases hy with hy | ⟨us', hus', _⟩
  · exact Or.inr hy
  -- a list that ends with both last elements would make them equal
  have hlast : xs[i] = ys[j] :=
    List.singleton_inj.1 (List.append_inj' (hus.symm.trans hus') rfl).2
  rw [equalities_iff.2 ⟨_, hxi, hlast ▸ hyj⟩] at hv
  exact Bool.noConfusion hv

/-- The common length of two beginnings bounds every list that lies in both. -/
theorem length_le_best {xs ys ws : List α} {r c : Nat} (hr : r ≤ xs.length) (hc : c ≤ ys.length)
    (hx : ws.Sublist (xs.take r)) (hy : ws.Sublist (ys.take c)) :
    ws.length ≤ (equalities xs ys).best r c := by
  induction r, c using Verdicts.best.induct (equalities xs ys) generalizing ws with
  | case1 c =>
    rw [List.take_zero, List.sublist_nil] at hx
    rw [hx]
    exact Nat.zero_le _
  | case2 i =>
    rw [List.take_zero, List.sublist_nil] at hy
    rw [hy]
    exact Nat.zero_le _
  | case3 i j hv ih =>
    obtain ⟨x, hxi, hyj⟩ := equalities_iff.1 hv
    rw [take_succ_eq hxi] at hx
    rw [take_succ_eq hyj] at hy
    rw [Verdicts.best_of_match hv]
    -- without its last element the list lies in both shorter beginnings
    have hfront := ih (by omega) (by omega) (dropLast_sublist_of_snoc hx)
      (dropLast_sublist_of_snoc hy)
    rw [List.length_dropLast] at hfront
    omega
  | case4 i j hv ihu ihl =>
    rw [Bool.not_eq_true] at hv
    rw [Verdicts.best_of_mismatch hv]
    rcases sublist_or_of_mismatch (by omega) (by omega) hv hx hy with hx | hy
    · have hup := ihu (by omega) hc hx hy
      omega
    · have hleft := ihl hr (by omega) hx hy
      omega

/-! ## §5. The selected list. -/

/-- The elements of the first list that the walk from a cell selects. -/
def picked (xs ys : List α) (r c : Nat) : List α :=
  ((equalities xs ys).pairs r c).filterMap fun q => xs[q.row]?

theorem picked_zero_left (xs ys : List α) (c : Nat) : picked xs ys 0 c = [] := by
  unfold picked
  rw [Verdicts.pairs_zero_left]
  rfl

theorem picked_zero_right (xs ys : List α) (r : Nat) : picked xs ys r 0 = [] := by
  unfold picked
  rw [Verdicts.pairs_zero_right]
  rfl

/-- A match adds the element to what is selected. -/
theorem picked_of_match {xs ys : List α} {i j : Nat} {x : α} (hx : xs[i]? = some x)
    (hy : ys[j]? = some x) : picked xs ys (i + 1) (j + 1) = picked xs ys i j ++ [x] := by
  unfold picked
  rw [Verdicts.pairs_of_match (equalities_iff.2 ⟨x, hx, hy⟩), List.filterMap_append]
  simp [hx]

theorem picked_of_left {xs ys : List α} {i j : Nat} (h : equalities xs ys i j = false)
    (hlt : (equalities xs ys).best i (j + 1) < (equalities xs ys).best (i + 1) j) :
    picked xs ys (i + 1) (j + 1) = picked xs ys (i + 1) j := by
  unfold picked
  rw [Verdicts.pairs_of_left h hlt]

theorem picked_of_up {xs ys : List α} {i j : Nat} (h : equalities xs ys i j = false)
    (hle : (equalities xs ys).best (i + 1) j ≤ (equalities xs ys).best i (j + 1)) :
    picked xs ys (i + 1) (j + 1) = picked xs ys i (j + 1) := by
  unfold picked
  rw [Verdicts.pairs_of_up h hle]

/-- As many elements are selected as the common length counts. -/
theorem length_picked (xs ys : List α) (r c : Nat) :
    (picked xs ys r c).length = (equalities xs ys).best r c := by
  induction r, c using Verdicts.walk_induction (equalities xs ys) with
  | top c => rw [picked_zero_left, Verdicts.best_zero_left, List.length_nil]
  | side r => rw [picked_zero_right, Verdicts.best_zero_right, List.length_nil]
  | matched i j hv ih =>
    obtain ⟨x, hx, hy⟩ := equalities_iff.1 hv
    rw [picked_of_match hx hy, Verdicts.best_of_match hv, List.length_append, ih]
    rfl
  | left i j hv hlt ih =>
    rw [picked_of_left hv hlt, Verdicts.best_of_mismatch hv, ih]
    omega
  | up i j hv hle ih =>
    rw [picked_of_up hv hle, Verdicts.best_of_mismatch hv, ih]
    omega

/-- The selected elements lie in both beginnings: a match adds the same element to both. -/
theorem picked_sublist (xs ys : List α) (r c : Nat) :
    (picked xs ys r c).Sublist (xs.take r) ∧ (picked xs ys r c).Sublist (ys.take c) := by
  induction r, c using Verdicts.walk_induction (equalities xs ys) with
  | top c =>
    rw [picked_zero_left]
    exact ⟨List.nil_sublist _, List.nil_sublist _⟩
  | side r =>
    rw [picked_zero_right]
    exact ⟨List.nil_sublist _, List.nil_sublist _⟩
  | matched i j hv ih =>
    obtain ⟨x, hx, hy⟩ := equalities_iff.1 hv
    rw [picked_of_match hx hy, take_succ_eq hx, take_succ_eq hy]
    exact ⟨ih.1.append (List.Sublist.refl _), ih.2.append (List.Sublist.refl _)⟩
  | left i j hv hlt ih =>
    -- nothing is selected, and the beginning of the second list only grows
    rw [picked_of_left hv hlt]
    exact ⟨ih.1, sublist_take_mono ih.2 (Nat.le_succ j)⟩
  | up i j hv hle ih =>
    rw [picked_of_up hv hle]
    exact ⟨sublist_take_mono ih.1 (Nat.le_succ i), ih.2⟩

/-- The list that the walk over two whole lists selects. -/
def chosen (xs ys : List α) : List α :=
  picked xs ys xs.length ys.length

/-- **The walk over two lists selects a longest common sublist.** -/
theorem chosen_longest (xs ys : List α) : Longest xs ys (chosen xs ys) := by
  obtain ⟨hx, hy⟩ := picked_sublist xs ys xs.length ys.length
  rw [List.take_length] at hx hy
  refine ⟨hx, hy, ?_⟩
  intro us hux huy
  rw [← xs.take_length] at hux
  rw [← ys.take_length] at huy
  unfold chosen
  rw [length_picked]
  exact length_le_best (Nat.le_refl _) (Nat.le_refl _) hux huy

/-- The path over two lists names elements of the first one. -/
theorem isSome_get?_of_mem_pairs (xs ys : List α) :
    ∀ q ∈ (⟨(equalities xs ys).pairs xs.length ys.length⟩ : Path).pairs,
      ((Indexed.ofList xs).get? q.row).isSome := by
  intro q hq
  obtain ⟨_, _, hv⟩ := Verdicts.mem_pairs hq
  obtain ⟨x, hx, _⟩ := equalities_iff.1 hv
  rw [Indexed.get?_ofList, hx]
  rfl

/-- The path over two lists selects the chosen list. -/
theorem items_through_pairs (xs ys : List α) :
    (Path.through ⟨(equalities xs ys).pairs xs.length ys.length⟩ (Indexed.ofList xs)).items
      = chosen xs ys := by
  rw [Path.items_through (isSome_get?_of_mem_pairs xs ys)]
  unfold chosen picked
  simp only [Indexed.get?_ofList]

/-- Read through the first list, the path is the chosen list. -/
theorem through_pairs (xs ys : List α) :
    Path.through ⟨(equalities xs ys).pairs xs.length ys.length⟩ (Indexed.ofList xs)
      = Indexed.ofList (chosen xs ys) := by
  rw [(Path.lawful_through (isSome_get?_of_mem_pairs xs ys)).eq_ofList, items_through_pairs]

/-! ## §6. Strings. -/

/-- The problem of two strings is that of their characters. -/
theorem Problem.ofStrings_eq (a b : String) : ofStrings a b = ofLists a.toList b.toList := by
  unfold ofStrings ofLists
  rw [Indexed.ofString_eq, Indexed.ofString_eq]

/-- **Two strings are answered with the list that the walk selects from their characters.** -/
theorem commonSubsequence_eq {a b : String} (hf : Grid.Fits (a.length + 1) (b.length + 1)) :
    commonSubsequence a b = .ok (String.ofList (chosen a.toList b.toList)) := by
  have hpath := (Problem.lawful_ofStrings a b).path_eq (Problem.fits_ofStrings hf)
  rw [Problem.ofStrings_eq] at hpath
  show ((Problem.ofStrings a b).path >>= fun path =>
    pure ((path.through (Problem.ofStrings a b).rows).text String.singleton)) = _
  rw [Problem.ofStrings_eq, hpath]
  show Except.ok (String.join ((Path.through
    ⟨(equalities a.toList b.toList).pairs a.toList.length b.toList.length⟩
    (Indexed.ofList a.toList)).items.map String.singleton)) = _
  rw [items_through_pairs]
  -- joining the texts of single characters gives the string of the list
  congr 1
  apply String.toList_injective
  rw [String.toList_join, String.toList_ofList, List.flatMap_map]
  simp

/-- An answer can be worked out on the characters of the two strings. -/
theorem commonSubsequence_of_chosen {a b s : String}
    (hf : Grid.Fits (a.length + 1) (b.length + 1)) (h : chosen a.toList b.toList = s.toList) :
    commonSubsequence a b = .ok s := by
  rw [commonSubsequence_eq hf, h, String.ofList_toList]

/-- The common length of two strings counts the characters that the walk selects. -/
theorem commonLength_eq {a b : String} (hf : Grid.Fits (a.length + 1) (b.length + 1)) :
    commonLength a b = .ok (chosen a.toList b.toList).length := by
  have hlength := (Problem.lawful_ofStrings a b).length_eq (Problem.fits_ofStrings hf)
  unfold commonLength
  rw [hlength, Problem.ofStrings_eq]
  unfold chosen
  rw [length_picked]
  rfl

/-! ## §7. Agreement of the walk and the grid. -/

/-- Under any verdict the walk ends on the edge with a chain of matches whose length is the corner
of the grid; between strings it spells a common subsequence of the common length. -/
theorem walk_agrees_with_grid :
    (∀ {α β : Type} (p : Problem α β), p.Lawful → p.Fits →
      ∃ g path w, p.fill = .ok g ∧ p.path = .ok path
        ∧ ((Engine.ofProblem p).backtrack.run (.fresh () ())).answer = .ok path
        ∧ Pair.Ascending path.pairs
        ∧ (∀ q ∈ path.pairs, q.row < p.rows.size ∧ q.column < p.columns.size ∧ p.Matches q)
        ∧ p.corner g = .ok w ∧ w.toInt = path.pairs.length
        ∧ p.length = .ok path.pairs.length)
    ∧ ∀ a b : String, Grid.Fits (a.length + 1) (b.length + 1) →
      ∃ s, commonSubsequence a b = .ok s ∧ commonLength a b = .ok s.length
        ∧ s.toList.Sublist a.toList ∧ s.toList.Sublist b.toList := by
  constructor
  · intro α β p hl hf
    obtain ⟨g, hfill, hg⟩ := hl.fill_spec hf
    have hcorner := Problem.corner_of_holds hg
    have hcount := Verdicts.length_pairs p.verdicts p.rows.size p.columns.size
    refine ⟨g, _, _, hfill, hl.path_eq hf, ?_, Verdicts.ascending_pairs _ _ _, ?_, hcorner, ?_, ?_⟩
    · rw [Engine.answer_backtrack_fresh hfill hcorner, hl.backtrack_eq hf hg, Problem.path_trail]
    · intro q hq
      obtain ⟨hr, hc, hv⟩ := Verdicts.mem_pairs hq
      exact ⟨hr, hc, Problem.matches_iff.2 hv⟩
    · rw [hcount]
      exact Int32.toInt_ofNat_of_lt (Problem.best_lt_of_fits hf (Nat.le_refl _) (Nat.le_refl _))
    · rw [hcount]
      exact hl.length_eq hf
  · intro a b hf
    obtain ⟨hleft, hright, _⟩ := chosen_longest a.toList b.toList
    refine ⟨_, commonSubsequence_eq hf, ?_, ?_, ?_⟩
    · rw [commonLength_eq hf, String.length_ofList]
    · rw [String.toList_ofList]
      exact hleft
    · rw [String.toList_ofList]
      exact hright

/-- Ranges against points: neither side could be compared the other way round. -/
theorem walk_agrees_with_grid_intervals :
    let p : Problem Agreement.Interval Int :=
      ⟨Indexed.ofList [⟨3, 5⟩, ⟨0, 9⟩], Indexed.ofList [9, 4, 1], Agreement.contains⟩
    p.Lawful ∧ p.Fits
      ∧ (∃ path, p.path = .ok path ∧ Pair.Ascending path.pairs
        ∧ p.length = .ok path.pairs.length)
      ∧ Grid.Fits ("añb".length + 1) ("bañ".length + 1)
      ∧ ∃ s, commonSubsequence "añb" "bañ" = .ok s ∧ commonLength "añb" "bañ" = .ok s.length
        ∧ s.toList.Sublist "añb".toList ∧ s.toList.Sublist "bañ".toList := by
  intro p
  have hlawful : p.Lawful := ⟨Indexed.lawful_ofList _, Indexed.lawful_ofList _⟩
  have hfits : p.Fits := by decide
  have hstrings : Grid.Fits ("añb".length + 1) ("bañ".length + 1) := by decide
  obtain ⟨g, path, w, _, hpath, _, hasc, _, _, _, hlength⟩ :=
    walk_agrees_with_grid.1 p hlawful hfits
  exact ⟨hlawful, hfits, ⟨path, hpath, hasc, hlength⟩, hstrings,
    walk_agrees_with_grid.2 "añb" "bañ" hstrings⟩

end CommonSubsequence
