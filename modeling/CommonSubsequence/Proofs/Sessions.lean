/-
  CommonSubsequence.Proofs.Sessions — runs of queries to one engine.

  A session puts one query after the other, so it is a run of the steps of
  `CommonSubsequence.Proofs.Caching`.  Its records are the missing work in the order in which it
  was needed: the grid first, then walks, and nothing that is stored is reported again.

  Main results:
    * `Engine.session_spec` — a run of queries, from any faithful memo.
    * `Engine.transcript_of_missing` — the grid is reported once, before everything else.
    * `Engine.run_answer_of_halt` — a query for the path when the walk is cut short.
    * `Engine.session_caching` — sessions of a fresh engine.
-/
import CommonSubsequence.Alignment.Agreement
import CommonSubsequence.Proofs.Caching

namespace CommonSubsequence.Engine

variable {α β : Type} {p : Problem α β} {g : Grid} {w : Int32} {m : Memo Unit Unit}

/-! ## §1. Runs of queries. -/

/-- The first query is answered, and the others start from the memo that it leaves. -/
theorem session_cons {ρ γ : Type} (e : Engine ρ γ α β) (q : Query α β) (qs : List (Query α β))
    (m : Memo ρ γ) :
    e.session (q :: qs) m
      = (⟨((e.answer q).run m).answer, ((e.answer q).run m).log⟩
          :: (e.session qs ((e.answer q).run m).state).1,
        (e.session qs ((e.answer q).run m).state).2) := rfl

/-- **A run of queries.**  The answers are those of the problem, the memo is the one after all
queries, and each query reports what was missing after the ones before it. -/
theorem session_spec (h : p.Filled g w) (hm : m.Faithful p g) (qs : List (Query α β)) :
    ((ofProblem p).session qs m).1.map Reply.answer = qs.map (reply p g)
      ∧ ((ofProblem p).session qs m).2 = m.afterAll p g qs
      ∧ ∀ k q, qs[k]? = some q → ((ofProblem p).session qs m).1[k]?.map Reply.log
        = some (records p g w (m.afterAll p g (qs.take k)) q) := by
  induction qs generalizing m with
  | nil =>
    refine ⟨rfl, rfl, ?_⟩
    intro k q hk
    rw [List.getElem?_nil] at hk
    cases hk
  | cons q qs ih =>
    obtain ⟨hanswers, hmemo, hlogs⟩ := ih (hm.after q)
    rw [session_cons, run_answer h hm q]
    refine ⟨congrArg (reply p g q :: ·) hanswers, hmemo, ?_⟩
    intro k q' hk
    cases k with
    | zero =>
      rw [List.getElem?_cons_zero, Option.some.injEq] at hk
      subst hk
      rfl
    | succ k =>
      rw [List.getElem?_cons_succ] at hk
      exact hlogs k q' hk

/-! ## §2. Reports of the grid. -/

/-- No record of a walk reports a grid. -/
theorem reportsGrid_walkLog {e : Entry} (he : e ∈ walkLog p g) : e.record.reportsGrid = false := by
  obtain ⟨r, hr, rfl⟩ := List.mem_map.1 he
  exact Trail.reportsGrid_records hr

/-- What a query reports of walks is part of the report of one walk. -/
theorem mem_walkLog_of_mem_walks {q : Query α β} {e : Entry} (he : e ∈ walks p g m q) :
    e ∈ walkLog p g := by
  unfold walks at he
  rcases List.mem_append.1 he with he | he
  · split at he
    · exact he
    · cases he
  · split at he
    · exact he
    · cases he

/-- A query that does not need the grid does not walk either. -/
theorem walks_of_needless {q : Query α β} (h : q.needsGrid p = false) : walks p g m q = [] := by
  have hwalk : q.walksAnew = false := by
    cases hw : q.walksAnew with
    | false => rfl
    | true =>
      have hneeds := Query.needsGrid_of_walks (p := p) (Or.inl hw)
      rw [h] at hneeds
      cases hneeds
  have hread : q.readsPath = false := by
    cases hr : q.readsPath with
    | false => rfl
    | true =>
      have hneeds := Query.needsGrid_of_walks (p := p) (Or.inr hr)
      rw [h] at hneeds
      cases hneeds
  unfold walks
  rw [hwalk, hread]
  rfl

/-- Once the grid is stored it is not reported again. -/
theorem reportsGrid_transcript_of_stored (h : p.Filled g w) (hm : m.Faithful p g)
    (hgrid : m.grid = some g) (qs : List (Query α β)) {e : Entry}
    (he : e ∈ transcript ((ofProblem p).session qs m).1) : e.record.reportsGrid = false := by
  induction qs generalizing m with
  | nil => cases he
  | cons q qs ih =>
    rw [session_cons, run_answer h hm q] at he
    rcases List.mem_append.1 he with he | he
    · rcases List.mem_append.1 he with he | he
      · rw [(visited_of_stored hgrid _).2] at he
        cases he
      · exact reportsGrid_walkLog (mem_walkLog_of_mem_walks he)
    · exact ih (hm.after q) (Memo.grid_after_of_stored hgrid) he

/-- Before the grid is stored nothing is reported, and its report comes first. -/
theorem transcript_of_missing (h : p.Filled g w) (hm : m.Faithful p g) (hgrid : m.grid = none)
    (qs : List (Query α β)) :
    transcript ((ofProblem p).session qs m).1 = []
      ∨ ∃ rest, transcript ((ofProblem p).session qs m).1
          = .own (.gridComputed g.rows g.columns w) :: rest
        ∧ ∀ e ∈ rest, e.record.reportsGrid = false := by
  induction qs generalizing m with
  | nil => exact Or.inl rfl
  | cons q qs ih =>
    rw [session_cons, run_answer h hm q]
    show records p g w m q ++ transcript ((ofProblem p).session qs (m.after p g q)).1 = []
      ∨ ∃ rest, records p g w m q ++ transcript ((ofProblem p).session qs (m.after p g q)).1 = _
        ∧ _
    unfold records
    cases hneeds : q.needsGrid p with
    | false =>
      -- the query reports nothing, and the grid is still missing for the rest
      rw [walks_of_needless hneeds]
      exact ih (hm.after q) ((Memo.grid_after_of_needless hneeds).trans hgrid)
    | true =>
      rw [Memo.visitLog_of_missing hgrid]
      refine Or.inr ⟨_, rfl, ?_⟩
      intro e he
      rcases List.mem_append.1 he with he | he
      · exact reportsGrid_walkLog (mem_walkLog_of_mem_walks he)
      · have hstored := Memo.grid_after_of_needs (m := m) (g := g) hneeds
        exact reportsGrid_transcript_of_stored h (hm.after q) hstored qs he

/-- A report of the grid comes first, and is the only one. -/
theorem report_first (h : p.Filled g w) (hm : m.Faithful p g) (hgrid : m.grid = none)
    (qs : List (Query α β)) {pre post : List Entry} {e : Entry}
    (hsplit : transcript ((ofProblem p).session qs m).1 = pre ++ e :: post)
    (he : e.record.reportsGrid = true) :
    pre = [] ∧ ∀ e' ∈ post, e'.record.reportsGrid = false := by
  rcases transcript_of_missing h hm hgrid qs with hnil | ⟨rest, hrest, hnone⟩
  · rw [hnil] at hsplit
    cases pre <;> cases hsplit
  · rw [hsplit] at hrest
    cases pre with
    | nil =>
      cases hrest
      exact ⟨rfl, hnone⟩
    | cons e' pre =>
      -- a later report would be among the records that report no grid
      cases hrest
      have hlater := hnone e (List.mem_append_right pre List.mem_cons_self)
      rw [he] at hlater
      cases hlater

/-- A fresh engine reports its grid at most once. -/
theorem countP_transcript_fresh (hf : p.Fits) (qs : List (Query α β)) :
    (transcript ((ofProblem p).session qs (.fresh () ())).1).countP (·.record.reportsGrid)
      ≤ 1 := by
  obtain ⟨g, w, h⟩ := Problem.exists_filled hf
  rcases transcript_of_missing h (Memo.faithful_fresh p g) rfl qs with hnil | ⟨rest, hrest, hnone⟩
  · rw [hnil]
    exact Nat.zero_le 1
  · have hzero : rest.countP (·.record.reportsGrid) = 0 := by
      refine List.countP_eq_zero.2 fun e he => ?_
      rw [hnone e he]
      exact Bool.false_ne_true
    rw [hrest, List.countP_cons, hzero]
    exact Nat.le_refl 1

/-! ## §3. Queries that ask for a path that cannot be found. -/

/-- Every query for the stored path is abandoned with the fault that cuts the walk short. -/
theorem reply_of_halt {f : Fault} (hhalt : (p.backtrack g).halt = some f) {q : Query α β}
    (hread : q.readsPath = true) : reply p g q = .error f := by
  have hwalk := Trail.path_of_halt_some hhalt
  cases q with
  | pathIsBacktrack => unfold reply; rw [hwalk]; rfl
  | pairs => unfold reply; rw [hwalk]; rfl
  | path q => unfold reply; rw [hwalk]; rfl
  | common q => unfold reply; rw [hwalk]; rfl
  | _ => cases hread

/-- Such a query walks once more, and only once. -/
theorem walks_of_halt {f : Fault} (hhalt : (p.backtrack g).halt = some f) {q : Query α β}
    (hread : q.readsPath = true) (hpath : m.path = none) : walks p g m q = walkLog p g := by
  unfold walks
  rw [hhalt, hread, hpath]
  cases q.walksAnew with
  | true => exact List.append_nil _
  | false => rfl

/-- From any faithful memo such a query stores the grid and no path. -/
theorem run_answer_of_halt (h : p.Filled g w) (hm : m.Faithful p g) {f : Fault}
    (hhalt : (p.backtrack g).halt = some f) {q : Query α β} (hread : q.readsPath = true) :
    ((ofProblem p).answer q).run m
      = ⟨.error f, ⟨(), (), some g, none⟩, m.visitLog g w true ++ walkLog p g⟩ := by
  have hneeds : q.needsGrid p = true := Query.needsGrid_of_walks (Or.inr hread)
  have hafter : m.after p g q = ⟨(), (), some g, none⟩ := by
    unfold Memo.after
    rw [hneeds, hread, Trail.path_of_halt_some hhalt]
    rfl
  rw [run_answer h hm, reply_of_halt hhalt hread, hafter]
  unfold records
  rw [walks_of_halt hhalt hread (hm.path_of_halt hhalt), hneeds]

/-! ## §4. Sessions of a fresh engine. -/

theorem any_eq_false_iff {qs : List (Query α β)} {f : Query α β → Bool} :
    qs.any f = false ↔ ∀ q ∈ qs, f q = false := by
  simp only [List.any_eq_false, Bool.not_eq_true]

/-- After some queries to a fresh engine the grid is missing if none of them needed it. -/
theorem isNone_grid_afterAll_fresh (qs : List (Query α β)) :
    ((Memo.fresh () ()).afterAll p g qs).grid.isNone = true
      ↔ ∀ q ∈ qs, q.needsGrid p = false := by
  rw [Memo.grid_afterAll, ← any_eq_false_iff]
  cases qs.any (·.needsGrid p) with
  | true => exact iff_of_false Bool.false_ne_true (by decide)
  | false => exact iff_of_true rfl rfl

/-- The path is missing if none of the queries asked for it, or the walk is cut short. -/
theorem isNone_path_afterAll_fresh (qs : List (Query α β)) :
    ((Memo.fresh () ()).afterAll p g qs).path.isNone = true
      ↔ ((p.backtrack g).halt = none → ∀ q ∈ qs, q.readsPath = false) := by
  rw [Memo.path_afterAll, ← any_eq_false_iff]
  cases qs.any (·.readsPath) with
  | false => exact iff_of_true rfl fun _ => rfl
  | true =>
    rw [if_pos rfl]
    cases hhalt : (p.backtrack g).halt with
    | none =>
      rw [Trail.path_of_halt_none hhalt]
      exact iff_of_false Bool.false_ne_true fun h => by cases h rfl
    | some f =>
      rw [Trail.path_of_halt_some hhalt]
      exact iff_of_true rfl fun h => by cases h

/-- What a query reports after some others. -/
theorem records_afterAll_fresh (qs : List (Query α β)) (q : Query α β) :
    records p g w ((Memo.fresh () ()).afterAll p g qs) q
      = (if q.needsGrid p ∧ ∀ q' ∈ qs, q'.needsGrid p = false
          then [.own (.gridComputed g.rows g.columns w)] else [])
        ++ ((if q.walksAnew then walkLog p g else [])
          ++ if q.readsPath
              ∧ ((p.backtrack g).halt = none → ∀ q' ∈ qs, q'.readsPath = false)
              ∧ ((p.backtrack g).halt ≠ none → q.walksAnew = false)
            then walkLog p g else []) := by
  have habandoned : (!(q.walksAnew && (p.backtrack g).halt.isSome)) = true
      ↔ ((p.backtrack g).halt ≠ none → q.walksAnew = false) := by
    cases (p.backtrack g).halt <;> cases q.walksAnew <;> simp
  unfold records walks Memo.visitLog
  simp only [Bool.and_eq_true, isNone_grid_afterAll_fresh, isNone_path_afterAll_fresh, habandoned,
    and_assoc]

/-- **Lazy caching is invisible except in the records.**  Over any two sequences, with or without
holes, every query of a session is answered as a fresh engine answers it.  The grid is reported by
the first query that needs it and by no other, before anything else.  A walk of its own is
reported in full each time and leaves the stored path alone.  The walk for the stored path is
reported by the first query that asks for it, or, if the walk is cut short, by every such query:
then the grid is stored and the path is not, and each of them is abandoned with the same fault. -/
theorem session_caching {α β : Type} {p : Problem α β} (hf : p.Fits) :
    ∃ g w, p.fill = .ok g ∧ p.corner g = .ok w ∧ ∀ qs : List (Query α β),
      let engine := ofProblem p
      let fresh := Memo.fresh () ()
      let run := engine.session qs fresh
      run.1.map Reply.answer = qs.map (fun q => ((engine.answer q).run fresh).answer)
      ∧ (∀ k q, qs[k]? = some q → run.1[k]?.map Reply.log = some
        ((if q.needsGrid p ∧ ∀ q' ∈ qs.take k, q'.needsGrid p = false
            then [.own (.gridComputed g.rows g.columns w)] else [])
          ++ ((if q.walksAnew then walkLog p g else [])
            ++ if q.readsPath
                ∧ ((p.backtrack g).halt = none → ∀ q' ∈ qs.take k, q'.readsPath = false)
                ∧ ((p.backtrack g).halt ≠ none → q.walksAnew = false)
              then walkLog p g else [])))
      ∧ (∀ pre e post, transcript run.1 = pre ++ e :: post → e.record.reportsGrid = true →
        pre = [] ∧ ∀ e' ∈ post, e'.record.reportsGrid = false)
      ∧ ((engine.answer .backtrack).run run.2).state.path = run.2.path
      ∧ ∀ f, (p.backtrack g).halt = some f → ∀ q, q.readsPath = true →
        let outcome := (engine.answer q).run run.2
        outcome.answer = .error f ∧ outcome.state.grid = some g ∧ outcome.state.path = none
          ∧ ∃ front, outcome.log = front ++ walkLog p g := by
  obtain ⟨g, w, h⟩ := Problem.exists_filled hf
  refine ⟨g, w, h.fill, h.corner, ?_⟩
  intro qs engine fresh run
  have hfresh : fresh.Faithful p g := Memo.faithful_fresh p g
  obtain ⟨hanswers, hmemo, hlogs⟩ := session_spec h hfresh qs
  have hfaithful : run.2.Faithful p g := by
    show ((ofProblem p).session qs fresh).2.Faithful p g
    rw [hmemo]
    exact hfresh.afterAll qs
  refine ⟨?_, ?_, ?_, ?_, ?_⟩
  · refine hanswers.trans (List.map_congr_left ?_)
    intro q _
    exact (congrArg Outcome.answer (run_answer h hfresh q)).symm
  · intro k q hk
    exact (hlogs k q hk).trans (congrArg some (records_afterAll_fresh (qs.take k) q))
  · intro pre e post hsplit he
    exact report_first h hfresh rfl qs hsplit he
  · show ((engine.answer .backtrack).run run.2).state.path = run.2.path
    rw [run_answer h hfaithful]
    rfl
  · intro f hhalt q hread outcome
    have houtcome : outcome = _ := run_answer_of_halt h hfaithful hhalt hread
    rw [houtcome]
    exact ⟨rfl, rfl, rfl, _, rfl⟩

/-- The walk leaves the last row, and then finds the first element of the rows missing. -/
theorem session_caching_cut_short :
    let p : Problem Int Int :=
      ⟨Indexed.ofSlots 2 #[none, some 2], Indexed.ofSlots 1 #[some 1], Agreement.exact⟩
    let engine := ofProblem p
    let run := engine.session [.cellCount, .pairs, .length] (.fresh () ())
    let outcome := (engine.answer .pairs).run run.2
    p.Fits ∧ run.1[1]?.map Reply.log
        = some [.own (.gridComputed 3 2 0), .own (.moved (.up 2 1))]
      ∧ outcome.answer = .error (.indexOutOfRange 0 2) ∧ outcome.state.path = none
      ∧ ∃ front, outcome.log = front ++ [.own (.moved (.up 2 1))] := by
  intro p engine run outcome
  have hfits : p.Fits := by decide
  obtain ⟨g, w, hfill, hcorner, hsession⟩ := session_caching hfits
  -- a hole in front leaves the grid as it was allocated
  obtain rfl : g = .zeros 3 2 := Except.ok.inj (hfill.symm.trans rfl)
  obtain rfl : w = 0 := Except.ok.inj (hcorner.symm.trans rfl)
  have hwalk : p.backtrack (.zeros 3 2) = ⟨[.up 2 1], some (.indexOutOfRange 0 2)⟩ := by
    have hup : p.turn (.zeros 3 2) 1 0 = .ok .up := rfl
    have hmissing : p.turn (.zeros 3 2) 0 0 = .error (.indexOutOfRange 0 2) := rfl
    show p.walk (.zeros 3 2) 2 1 = _
    rw [Problem.walk, hup]
    dsimp only
    rw [Problem.walk, hmissing]
    rfl
  obtain ⟨_, hlogs, _, _, hcut⟩ := hsession [.cellCount, .pairs, .length]
  obtain ⟨hanswer, _, hpath, front, hlog⟩ := hcut _ (by rw [hwalk]) .pairs rfl
  have hwalkLog : walkLog p (.zeros 3 2) = [.own (.moved (.up 2 1))] := by
    unfold walkLog
    rw [hwalk]
    rfl
  rw [hwalkLog] at hlog
  refine ⟨hfits, ?_, hanswer, hpath, front, hlog⟩
  rw [hlogs 1 .pairs rfl, hwalkLog, hwalk]
  rfl

end CommonSubsequence.Engine
