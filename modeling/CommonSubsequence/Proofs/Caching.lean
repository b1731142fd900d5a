/-
  CommonSubsequence.Proofs.Caching — what is stored is not seen in an answer.

  An engine stores its grid and its path, and nothing else about the past.  A memo is therefore
  faithful as long as it stores nothing but the grid of the problem and the path of the walk
  through it (`Memo.Faithful`).  From any faithful memo a query has the answer that the problem
  alone gives (`Engine.reply`), leaves a faithful memo (`Memo.after`), and reports the work that
  was missing (`Engine.records`).  What is stored after several queries depends only on whether
  one of them needed the grid, and whether one asked for the path.

  Main results:
    * `Memo.Faithful.after` — a query keeps the memo faithful.
    * `Memo.grid_afterAll`, `Memo.path_afterAll` — what is stored after several queries.
    * `Engine.run_answer` — one query: answer, memo and records.
-/
import CommonSubsequence.Proofs.Visits

namespace CommonSubsequence

variable {α β : Type} {p : Problem α β} {g : Grid} {w : Int32} {m : Memo Unit Unit}

/-! ## §1. Faithful memos. -/

namespace Memo

/-- The memo stores no grid but `g`, and no path but the one that a walk through `g` finds. -/
structure Faithful (p : Problem α β) (g : Grid) (m : Memo Unit Unit) : Prop where
  grid : m.grid = none ∨ m.grid = some g
  path : ∀ path, m.path = some path → m.grid = some g ∧ (p.backtrack g).path = .ok path

theorem faithful_fresh (p : Problem α β) (g : Grid) : (fresh () ()).Faithful p g :=
  ⟨Or.inl rfl, fun _ h => by cases h⟩

/-- The memo after a query: a needed grid is stored, and a path that was asked for, if the walk
finds one. -/
def after (p : Problem α β) (g : Grid) (m : Memo Unit Unit) (q : Engine.Query α β) :
    Memo Unit Unit where
  rows := ()
  columns := ()
  grid := if q.needsGrid p then some g else m.grid
  path := if q.readsPath then (p.backtrack g).path.toOption else m.path

/-- The memo after several queries. -/
def afterAll (p : Problem α β) (g : Grid) (m : Memo Unit Unit) (qs : List (Engine.Query α β)) :
    Memo Unit Unit :=
  qs.foldl (Memo.after p g) m

section

variable {q : Engine.Query α β}

theorem grid_after_of_needs (h : q.needsGrid p = true) : (m.after p g q).grid = some g :=
  if_pos h

/-- A query that does not need the grid leaves it stored or missing as it was. -/
theorem grid_after_of_needless (h : q.needsGrid p = false) : (m.after p g q).grid = m.grid :=
  if_neg (ne_true_of_eq_false h)

/-- A stored grid stays. -/
theorem grid_after_of_stored (h : m.grid = some g) : (m.after p g q).grid = some g := by
  by_cases hneeds : q.needsGrid p = true
  · exact grid_after_of_needs hneeds
  · exact (grid_after_of_needless (eq_false_of_ne_true hneeds)).trans h

end

/-- A query keeps the memo faithful: it stores a path only together with its grid. -/
theorem Faithful.after (hm : m.Faithful p g) (q : Engine.Query α β) :
    (m.after p g q).Faithful p g := by
  refine ⟨?_, ?_⟩
  · by_cases hneeds : q.needsGrid p = true
    · exact Or.inr (grid_after_of_needs hneeds)
    · rw [grid_after_of_needless (eq_false_of_ne_true hneeds)]
      exact hm.grid
  · intro path hpath
    unfold Memo.after at hpath
    cases hread : q.readsPath with
    | false =>
      rw [hread] at hpath
      obtain ⟨hstored, hwalk⟩ := hm.path path hpath
      exact ⟨grid_after_of_stored hstored, hwalk⟩
    | true =>
      rw [hread] at hpath
      refine ⟨grid_after_of_needs (Engine.Query.needsGrid_of_walks (Or.inr hread)), ?_⟩
      cases hwalk : (p.backtrack g).path with
      | error f =>
        rw [hwalk] at hpath
        cases hpath
      | ok path' =>
        rw [hwalk] at hpath
        exact congrArg Except.ok (Option.some.inj hpath)

/-- No path is stored if the walk is cut short. -/
theorem Faithful.path_of_halt (hm : m.Faithful p g) {f : Fault}
    (hhalt : (p.backtrack g).halt = some f) : m.path = none := by
  cases hpath : m.path with
  | none => rfl
  | some path =>
    have hnone := Trail.halt_of_path_ok (hm.path path hpath).2
    rw [hhalt] at hnone
    cases hnone

/-- Queries keep a memo faithful. -/
theorem Faithful.afterAll (hm : m.Faithful p g) (qs : List (Engine.Query α β)) :
    (m.afterAll p g qs).Faithful p g := by
  induction qs generalizing m with
  | nil => exact hm
  | cons q qs ih => exact ih (hm.after q)

/-- The grid is stored as soon as one query needed it. -/
theorem grid_afterAll (p : Problem α β) (g : Grid) (m : Memo Unit Unit)
    (qs : List (Engine.Query α β)) :
    (m.afterAll p g qs).grid = if qs.any (·.needsGrid p) then some g else m.grid := by
  induction qs generalizing m with
  | nil => rfl
  | cons q qs ih =>
    show ((m.after p g q).afterAll p g qs).grid = _
    rw [ih, List.any_cons]
    unfold Memo.after
    cases q.needsGrid p <;> cases qs.any (·.needsGrid p) <;> rfl

/-- The path is stored as soon as one query asked for it, if there is one. -/
theorem path_afterAll (p : Problem α β) (g : Grid) (m : Memo Unit Unit)
    (qs : List (Engine.Query α β)) :
    (m.afterAll p g qs).path
      = if qs.any (·.readsPath) then (p.backtrack g).path.toOption else m.path := by
  induction qs generalizing m with
  | nil => rfl
  | cons q qs ih =>
    show ((m.after p g q).afterAll p g qs).path = _
    rw [ih, List.any_cons]
    unfold Memo.after
    cases q.readsPath <;> cases qs.any (·.readsPath) <;> rfl

end Memo

namespace Engine

/-- What a walk through the grid reports. -/
def walkLog (p : Problem α β) (g : Grid) : List Entry :=
  (p.backtrack g).records.map .own

/-! ## §2. Walks and stored paths. -/

/-- A new walk visits the grid and reports itself, whatever path is stored. -/
theorem run_backtrack (h : p.Filled g w) (hm : m.grid = none ∨ m.grid = some g) :
    (ofProblem p).backtrack.run m
      = ⟨(p.backtrack g).path, m.visited g true, m.visitLog g w true ++ walkLog p g⟩ := by
  unfold backtrack
  rw [Action.run_bind_of_ok (visits_grid h m hm),
    Action.run_bind_of_ok (run_openProblem_ofProblem p _)]
  show (⟨((Action.send _ >>= fun _ => Action.ofExcept _).run _).answer,
    ((Action.send _ >>= fun _ => Action.ofExcept _).run _).state,
    m.visitLog g w true ++ ((Action.send _ >>= fun _ => Action.ofExcept _).run _).log⟩ :
      Outcome _ _) = _
  rw [Action.run_bind_of_ok (Action.run_send _ _), Action.run_ofExcept, List.append_nil]
  rfl

/-- A visit changes nothing where the grid is stored. -/
theorem visited_of_stored (hm : m.grid = some g) (visit : Bool) :
    m.visited g visit = m ∧ m.visitLog g w visit = [] := by
  cases m
  subst hm
  cases visit <;> exact ⟨rfl, rfl⟩

/-- The path is walked for unless it is stored, and a walk that is cut short stores nothing. -/
theorem run_path (h : p.Filled g w) (hm : m.Faithful p g) :
    (ofProblem p).path.run m
      = ⟨(p.backtrack g).path, { m.visited g true with path := (p.backtrack g).path.toOption },
        m.visitLog g w true ++ if m.path.isNone then walkLog p g else []⟩ := by
  cases hpath : m.path with
  | some path =>
    obtain ⟨hgrid, hwalk⟩ := hm.path path hpath
    obtain ⟨hvisited, hlog⟩ := visited_of_stored (w := w) hgrid true
    rw [run_path_of_stored _ hpath, hvisited, hlog, hwalk]
    cases m
    subst hpath
    rfl
  | none =>
    unfold path
    rw [Action.run_bind_of_ok (Action.run_get m), hpath]
    have hback := run_backtrack h hm.grid
    cases hwalk : (p.backtrack g).path with
    | error f =>
      rw [hwalk] at hback
      show (⟨(((ofProblem p).backtrack >>= _).run m).answer, _, [] ++ _⟩ : Outcome _ _) = _
      rw [Action.run_bind_of_error hback]
      cases m
      subst hpath
      rfl
    | ok path =>
      rw [hwalk] at hback
      show (⟨(((ofProblem p).backtrack >>= _).run m).answer, _, [] ++ _⟩ : Outcome _ _) = _
      rw [Action.run_bind_of_ok hback, Action.run_bind_of_ok (Action.run_modify _ _)]
      show (⟨_, _, [] ++ ((_ ++ _) ++ [])⟩ : Outcome _ _) = _
      rw [List.nil_append, List.append_nil]
      rfl

theorem run_common (h : p.Filled g w) (hm : m.Faithful p g) :
    (ofProblem p).common.run m
      = ⟨(p.backtrack g).path.map fun path => path.through p.rows,
        { m.visited g true with path := (p.backtrack g).path.toOption },
        m.visitLog g w true ++ if m.path.isNone then walkLog p g else []⟩ :=
  Action.run_bind_pure (run_path h hm) fun path => path.through p.rows

/-! ## §3. One query. -/

/-- The answer to a query, from the problem and its grid alone. -/
def reply (p : Problem α β) (g : Grid) : Query α β → Except Fault (Answer α β)
  | .cellCount => .ok (.number ((p.rows.size + 1) * (p.columns.size + 1)))
  | .length => ((p.corner g).map Problem.count).map .number
  | .backtrack => (p.backtrack g).path.map .pairs
  | .pathIsBacktrack => (p.backtrack g).path.map fun path => .flag (path == path)
  | .table layers q => ((layered g layers).answer q).run.map .cells
  | .grid layers q => ((layered g layers).answer q).run.map .cells
  | .gridText => .ok (.text g.text)
  | .rows q => (p.rows.answer q).map .rows
  | .columns q => (p.columns.answer q).map .columns
  | .pairs => (p.backtrack g).path.map .pairs
  | .path q => (p.backtrack g).path.bind fun path => (path.indexed.answer q).map .path
  | .common q =>
    ((p.backtrack g).path.map fun path => path.through p.rows).bind fun s =>
      (s.answer q).map .rows

/-- The walks of a query: one of its own, and the one for the path if that is asked for and
missing.  A walk of its own that is cut short ends the query. -/
def walks (p : Problem α β) (g : Grid) (m : Memo Unit Unit) (q : Query α β) : List Entry :=
  (if q.walksAnew then walkLog p g else [])
    ++ if q.readsPath && m.path.isNone && !(q.walksAnew && (p.backtrack g).halt.isSome)
      then walkLog p g else []

/-- What a query reports: the grid if it is needed and missing, and its walks. -/
def records (p : Problem α β) (g : Grid) (w : Int32) (m : Memo Unit Unit) (q : Query α β) :
    List Entry :=
  m.visitLog g w (q.needsGrid p) ++ walks p g m q

section

variable {q : Query α β} {a : Action (Memo Unit Unit) (Answer α β)} {r : Except Fault (Answer α β)}

/-- A query without a walk does no more than visit the grid. -/
theorem outcome_of_still (hwalk : q.walksAnew = false) (hread : q.readsPath = false)
    (hrun : a.run m = ⟨r, m.visited g (q.needsGrid p), m.visitLog g w (q.needsGrid p)⟩) :
    a.run m = ⟨r, m.after p g q, records p g w m q⟩ := by
  have hafter : m.after p g q = m.visited g (q.needsGrid p) := by
    unfold Memo.after Memo.visited
    rw [hread]
    cases q.needsGrid p <;> rfl
  have hrecords : records p g w m q = m.visitLog g w (q.needsGrid p) := by
    unfold records walks
    rw [hwalk, hread]
    exact List.append_nil _
  rw [hrun, hafter, hrecords]

/-- A query for the stored path does what is missing for it. -/
theorem outcome_of_reading (hwalk : q.walksAnew = false) (hread : q.readsPath = true)
    (hrun : a.run m = ⟨r, { m.visited g true with path := (p.backtrack g).path.toOption },
      m.visitLog g w true ++ if m.path.isNone then walkLog p g else []⟩) :
    a.run m = ⟨r, m.after p g q, records p g w m q⟩ := by
  have hneeds : q.needsGrid p = true := Query.needsGrid_of_walks (Or.inr hread)
  have hafter : m.after p g q
      = { m.visited g true with path := (p.backtrack g).path.toOption } := by
    unfold Memo.after
    rw [hread, hneeds]
    rfl
  have hrecords : records p g w m q
      = m.visitLog g w true ++ if m.path.isNone then walkLog p g else [] := by
    unfold records walks
    rw [hwalk, hread, hneeds, Bool.false_and, Bool.not_false, Bool.and_true, Bool.true_and]
    rfl
  rw [hrun, hafter, hrecords]

end

/-- After a walk of its own a query finds the grid stored, and the memo as faithful as before. -/
theorem faithful_visited (hm : m.Faithful p g) : (m.visited g true).Faithful p g :=
  ⟨Or.inr rfl, fun path hpath => ⟨rfl, (hm.path path hpath).2⟩⟩

/-- A query that makes a walk of its own and asks for the stored path. -/
theorem run_pathIsBacktrack (h : p.Filled g w) (hm : m.Faithful p g) :
    ((ofProblem p).answer .pathIsBacktrack).run m
      = ⟨reply p g .pathIsBacktrack, m.after p g .pathIsBacktrack,
        records p g w m .pathIsBacktrack⟩ := by
  have hback := run_backtrack h hm.grid
  have hpath := run_path h (faithful_visited hm)
  obtain ⟨hvisited, hlog⟩ := visited_of_stored (m := m.visited g true) (g := g) (w := w) rfl true
  rw [hvisited, hlog] at hpath
  unfold reply records walks
  show ((ofProblem p).backtrack >>= fun found => (ofProblem p).path >>= fun stored =>
    pure (Answer.flag (found == stored))).run m = _
  cases hwalk : (p.backtrack g).path with
  | error f =>
    -- nothing can be stored, and the second walk is not made
    have hhalt := Trail.halt_of_path_error hwalk
    have hmissing : m.path = none := hm.path_of_halt hhalt
    rw [hwalk] at hback
    rw [Action.run_bind_of_error hback, hhalt]
    have hafter : m.after p g .pathIsBacktrack = m.visited g true := by
      unfold Memo.after
      rw [hwalk]
      cases m
      subst hmissing
      rfl
    rw [hafter, hmissing]
    show (⟨_, _, _⟩ : Outcome _ _) = ⟨_, _, _ ++ (walkLog p g ++ [])⟩
    rw [List.append_nil]
    rfl
  | ok path =>
    rw [hwalk] at hback hpath
    rw [Action.run_bind_of_ok hback, Trail.halt_of_path_ok hwalk,
      Action.run_bind_pure hpath fun stored => Answer.flag (path == stored)]
    have hafter : m.after p g .pathIsBacktrack = { m.visited g true with path := some path } := by
      unfold Memo.after
      rw [hwalk]
      rfl
    rw [hafter]
    show (⟨_, _, (_ ++ walkLog p g) ++ ([] ++ if m.path.isNone then _ else _)⟩ : Outcome _ _)
      = ⟨_, _, _ ++ (walkLog p g ++ if m.path.isNone && true then _ else _)⟩
    rw [List.append_assoc, List.nil_append, Bool.and_true]
    rfl

theorem run_length (h : p.Filled g w) (hm : m.grid = none ∨ m.grid = some g) :
    (ofProblem p).length.run m
      = ⟨(p.corner g).map Problem.count, m.visited g true, m.visitLog g w true⟩ :=
  have hrun := Action.run_bind_ofExcept (visits_grid h m hm) p.corner Problem.count
  hrun

/-- **One query.**  From every faithful memo the answer is that of the problem, and only what is
stored and what is reported depend on the memo. -/
theorem run_answer (h : p.Filled g w) (hm : m.Faithful p g) (q : Query α β) :
    ((ofProblem p).answer q).run m = ⟨reply p g q, m.after p g q, records p g w m q⟩ := by
  have hgrid := visits_grid h m hm.grid
  have hpath := run_path h hm
  cases q with
  | cellCount => exact outcome_of_still rfl rfl rfl
  | length => exact outcome_of_still rfl rfl (Action.run_bind_pure (run_length h hm.grid) _)
  | backtrack =>
    have hrecords : records p g w m .backtrack = m.visitLog g w true ++ walkLog p g := by
      unfold records walks
      show _ ++ (walkLog p g ++ []) = _
      rw [List.append_nil]
      rfl
    rw [hrecords]
    exact Action.run_bind_pure (run_backtrack h hm.grid) _
  | pathIsBacktrack => exact run_pathIsBacktrack h hm
  | table layers q =>
    exact outcome_of_still rfl rfl
      (Action.run_bind_ofExcept (visits_table h layers q m hm.grid) id _)
  | grid layers q => exact outcome_of_still rfl rfl (Action.run_bind_ofExcept hgrid _ _)
  | gridText => exact outcome_of_still rfl rfl (Action.run_bind_pure hgrid _)
  | rows q =>
    exact outcome_of_still rfl rfl
      (Action.run_bind_ofExcept (run_openRows_ofProblem p m) (fun s => s.answer q) _)
  | columns q =>
    exact outcome_of_still rfl rfl
      (Action.run_bind_ofExcept (run_openColumns_ofProblem p m) (fun s => s.answer q) _)
  | pairs => exact outcome_of_reading rfl rfl (Action.run_bind_pure hpath _)
  | path q => exact outcome_of_reading rfl rfl (Action.run_bind_ofExcept hpath _ _)
  | common q => exact outcome_of_reading rfl rfl (Action.run_bind_ofExcept (run_common h hm) _ _)

end Engine

end CommonSubsequence
