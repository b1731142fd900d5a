/-
  CommonSubsequence.Proofs.Towers — engines on engines, to any depth.

  A sequence that is simply there is a source that has nothing to do, not even the first time.  An
  engine over two sources that work once is itself such a source, as soon as its walk reaches the
  edge: the first time it does what is missing, which ends with its rows open and its path stored,
  and from then on both are handed out in silence.  It does not matter what it was asked for
  before.  So what is known of engines over sources that work once (`Nest`) holds of engines on
  engines on engines.

  Main results:
    * `Nest.plain_session` — what an engine has computed after a session.
    * `Nest.Started.session` — a session ends as it may start.
    * `Opening.ofNest` — an engine over two sources as a source.
-/
import CommonSubsequence.Proofs.Nesting

namespace CommonSubsequence

/-! ## §1. Sequences that are simply there. -/

/-- A sequence that is simply there, as a source that works once. -/
def Opening.plain {α : Type} (s : Indexed α) : Opening Unit α where
  source := .plain s
  elements := s
  fresh := ()
  spent := ()
  log := []
  run_fresh := rfl
  run_spent := rfl

namespace Nest

variable {ρ γ α β : Type}

/-- Both sequences of the problem are simply there. -/
def ofProblem (p : Problem α β) : Nest Unit Unit α β :=
  ⟨.plain p.rows, .plain p.columns, p.agree⟩

theorem engine_ofProblem (p : Problem α β) : (ofProblem p).engine = Engine.ofProblem p := rfl

/-! ## §2. Engines that may have been asked before. -/

variable {N : Nest ρ γ α β} {H : List Entry} {m : Memo ρ γ} {g : Grid} {w : Int32} {path : Path}

/-- The memo fits what the engine has sent so far, and stores nothing but its grid and its path. -/
structure Started (N : Nest ρ γ α β) (g : Grid) (m : Memo ρ γ) : Prop where
  account : ∃ H, N.Account H m
  faithful : m.plain.Faithful N.problem g

/-- Nothing is opened yet, and nothing computed. -/
def fresh (N : Nest ρ γ α β) : Memo ρ γ :=
  .fresh N.rows.fresh N.columns.fresh

theorem started_fresh (N : Nest ρ γ α β) (g : Grid) : N.Started g N.fresh :=
  ⟨⟨[], N.account_fresh⟩, Memo.faithful_fresh N.problem g⟩

/-- The grid of an engine is that of the opened sequences, whatever it was asked for before. -/
theorem Started.answer_grid (h : N.problem.Filled g w) (hm : N.Started g m) :
    (N.engine.grid.run m).answer = .ok g := by
  obtain ⟨⟨H, haccount⟩, hfaithful⟩ := hm
  rw [(N.rel_grid H m haccount).answer, Engine.visits_grid h m.plain hfaithful.grid]

/-- A new walk is the walk through the grid of the opened sequences. -/
theorem Started.answer_backtrack (h : N.problem.Filled g w) (hm : N.Started g m) :
    (N.engine.backtrack.run m).answer = (N.problem.backtrack g).path := by
  obtain ⟨⟨H, haccount⟩, hfaithful⟩ := hm
  rw [(N.rel_backtrack H m haccount).answer, Engine.run_backtrack h hfaithful.grid]

/-- After a session the engine has computed what the engine over the opened sequences has. -/
theorem plain_session (h : N.Account H m) (qs : List (Engine.Query α β)) :
    (N.engine.session qs m).2.plain = ((Engine.ofProblem N.problem).session qs m.plain).2 := by
  -- each query hands the account of its history on, as in `session_follows`
  induction qs generalizing H m with
  | nil => rfl
  | cons q qs ih =>
    have hq := N.rel_answer q H m h
    rw [Engine.session_cons, Engine.session_cons, ← hq.state]
    exact ih hq.account

/-- After a session the memo still fits what was sent, and stores nothing else. -/
theorem Started.session (h : N.problem.Filled g w) (hm : N.Started g m)
    (qs : List (Engine.Query α β)) : N.Started g (N.engine.session qs m).2 := by
  obtain ⟨⟨H, haccount⟩, hfaithful⟩ := hm
  obtain ⟨_, _, hend⟩ := N.session_follows haccount qs
  refine ⟨⟨_, hend⟩, ?_⟩
  rw [plain_session haccount qs, (Engine.session_spec h hfaithful qs).2.1]
  exact hfaithful.afterAll qs

/-! ## §3. Engines as sources. -/

/-- If the walk finds a path, the engine hands it out and has it stored. -/
theorem run_path (h : N.problem.Filled g w) (hwalk : (N.problem.backtrack g).path = .ok path)
    (hm : N.Started g m) :
    ∃ m' l, N.engine.path.run m = ⟨.ok path, m', l⟩ ∧ m'.path = some path
      ∧ ∃ H, N.Account H m' := by
  obtain ⟨⟨H, haccount⟩, hfaithful⟩ := hm
  -- the plain engine says what is answered and stored, the account says what became of the sources
  obtain ⟨hanswer, hstate, _, hend⟩ := N.rel_path H m haccount
  rw [Engine.run_path h hfaithful, hwalk] at hanswer hstate
  rcases hrun : N.engine.path.run m with ⟨r, m', l⟩
  rw [hrun] at hanswer hstate hend
  refine ⟨m', l, ?_, congrArg Memo.path hstate, _, hend⟩
  rw [show r = .ok path from hanswer]

/-- The selected elements are handed out with the path stored and the rows open. -/
theorem run_common (h : N.problem.Filled g w) (hwalk : (N.problem.backtrack g).path = .ok path)
    (hm : N.Started g m) :
    ∃ l, N.engine.common.run m = ⟨.ok (path.through N.problem.rows),
      { (N.engine.path.run m).state with rows := N.rows.spent }, l⟩ := by
  obtain ⟨m', l, hpath, _, H, haccount⟩ := run_path h hwalk hm
  -- opening the rows comes last, so it decides what their source is left with
  obtain ⟨l', hrows, _⟩ := run_openRows haccount
  unfold Engine.common
  rw [Action.run_bind_of_ok hpath, Action.run_bind_of_ok hrows, hpath]
  exact ⟨_, rfl⟩

/-- Where the path is stored and the rows are open, they are handed out in silence. -/
theorem run_common_of_spent (hpath : m.path = some path) (hrows : m.rows = N.rows.spent) :
    N.engine.common.run m = ⟨.ok (path.through N.problem.rows), m, []⟩ := by
  have hsource : Action.run N.rows.source m.rows = ⟨.ok N.rows.elements, m.rows, []⟩ := by
    rw [hrows]
    exact N.rows.run_spent
  have hopen : N.engine.openRows.run m = ⟨.ok N.problem.rows, m, []⟩ :=
    Action.run_along .rows _ hsource
  unfold Engine.common
  rw [Action.run_bind_of_ok (Engine.run_path_of_stored N.engine hpath),
    Action.run_bind_of_ok hopen]
  rfl

end Nest

/-- **An engine over two sources that work once works once**, if its walk finds a path. -/
def Opening.ofNest {ρ γ α β : Type} (N : Nest ρ γ α β) {g : Grid} {w : Int32} {path : Path}
    {m : Memo ρ γ} (h : N.problem.Filled g w)
    (hwalk : (N.problem.backtrack g).path = .ok path) (hm : N.Started g m) :
    Opening (Memo ρ γ) α where
  source := N.engine.source
  elements := path.through N.problem.rows
  fresh := m
  spent := { (N.engine.path.run m).state with rows := N.rows.spent }
  log := (N.engine.common.run m).log
  run_fresh := by
    obtain ⟨l, hrun⟩ := Nest.run_common h hwalk hm
    show N.engine.common.run m = _
    rw [hrun]
  run_spent := by
    obtain ⟨m', l, hpath, hstored, _⟩ := Nest.run_path h hwalk hm
    rw [hpath]
    exact Nest.run_common_of_spent hstored rfl

end CommonSubsequence
