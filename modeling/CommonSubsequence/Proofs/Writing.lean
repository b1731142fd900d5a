/-
  CommonSubsequence.Proofs.Writing — runs of writes, each through a stack of layers of its own.

  What a write is answered depends on its stack, its coordinates and the shape of the grid at the
  bottom, and on no cell.  No access changes the shape, so all answers of a run are settled before
  it starts (`Write.result`).  One write that succeeds replaces one cell and one that fails
  replaces none; after a run a cell therefore holds what the last write to succeed at it left
  there (`Write.last`), through whatever stack it is read.

  An engine seen as a grid is read-only to begin with.  Asking it for its shape may open its
  sequences, but stores no grid and no path of its own, so no run of writes does anything to it.

  Main results:
    * `Write.run_perform`, `Write.run_performAll` — one write, and runs of writes.
    * `Engine.Refuses.under` — stacks around a grid that refuses writes.
    * `Engine.session_refuses`, `Engine.session_writes` — runs of writes to an engine.
    * `writes_through_stacks` — grids and engines.
-/
import CommonSubsequence.Proofs.Maintaining
import CommonSubsequence.Proofs.Openings
import CommonSubsequence.Proofs.Sessions
import CommonSubsequence.Proofs.Stacks

namespace CommonSubsequence

universe v

/-! ## §1. Writes. -/

/-- A write through a stack of layers. -/
structure Write where
  /-- The layers between the grid and the writer, the first of them innermost. -/
  layers : List Cells.Layer
  row : Nat
  column : Nat
  value : Int32
deriving DecidableEq, Repr

namespace Write

section

variable {m : Type → Type v} [Monad m]

/-- The write, done to a grid. -/
def perform (w : Write) (v : Cells m) : m (Except Fault Unit) :=
  (v.under w.layers).write w.row w.column w.value

/-- Several writes, one after the other, whether or not they succeed. -/
def performAll (ws : List Write) (v : Cells m) : m (List (Except Fault Unit)) :=
  ws.mapM (·.perform v)

end

/-- The write, put to an engine as a query. -/
def query {α β : Type} (w : Write) : Engine.Query α β :=
  .table w.layers (.write w.row w.column w.value)

/-- The answer to the write if the grid can be written and has the given shape. -/
def result (w : Write) (shape : Nat × Nat) : Except Fault Unit :=
  Cells.writeResult w.layers shape w.row w.column

/-- The answer to the write if the grid can only be read. -/
def refusal (w : Write) (shape : Nat × Nat) : Except Fault Unit :=
  Cells.writeResult (.shared :: w.layers) shape w.row w.column

/-- The cell of the grid that the write is about. -/
def target (w : Write) : Nat × Nat :=
  Cells.cellUnder w.layers (w.row, w.column)

/-- The write succeeds, and replaces the cell. -/
def Replaces (w : Write) (shape cell : Nat × Nat) : Prop :=
  (w.result shape).isOk ∧ w.target = cell

instance (w : Write) (shape cell : Nat × Nat) : Decidable (w.Replaces shape cell) :=
  inferInstanceAs (Decidable (_ ∧ _))

/-- What the last write to succeed at a cell left there, if there was one. -/
def last (ws : List Write) (shape cell : Nat × Nat) : Option Int32 :=
  (ws.reverse.find? (·.Replaces shape cell)).map value

/-- A first write counts at a cell only if no later one does. -/
theorem last_cons (w : Write) (ws : List Write) (shape cell : Nat × Nat) :
    last (w :: ws) shape cell
      = (last ws shape cell).or (if w.Replaces shape cell then some w.value else none) := by
  unfold last
  rw [List.reverse_cons, List.find?_append]
  cases ws.reverse.find? (·.Replaces shape cell) with
  | some w' => rfl
  | none =>
    by_cases h : w.Replaces shape cell
    · simp [h]
    · simp [h]

/-! ## §2. Grids held in the state. -/

/-- **One write.**  It is answered from the shape alone, and replaces the one cell that it is about
or none. -/
theorem run_perform (w : Write) (g : Grid) :
    let o := (w.perform Grid.stored).run g
    o.1 = w.result g.shape ∧ o.2.shape = g.shape
      ∧ (∀ f, o.1 = .error f → o.2 = g)
      ∧ (o.1 = .ok () → g.InRange w.target.1 w.target.2 ∧ ∀ r c, o.2.read r c
        = if w.target = (r, c) then .ok w.value else g.read r c) := by
  intro o
  -- the answer is settled by the shape; what the write does follows from the answer
  cases hresult : w.result g.shape with
  | error f =>
    have hrun : o = (.error f, g) := Grid.run_write_under_of_error hresult
    rw [hrun]
    refine ⟨rfl, rfl, ?_, ?_⟩
    · exact fun _ _ => rfl
    · intro h
      cases h
  | ok _ =>
    obtain ⟨hcell, hrun⟩ : ∃ hcell : g.InRange w.target.1 w.target.2,
        o = (.ok (), g.set w.target.1 w.target.2 w.value hcell) := Grid.run_write_under hresult
    rw [hrun]
    refine ⟨rfl, rfl, ?_, ?_⟩
    · intro f h
      cases h
    · refine fun _ => ⟨hcell, ?_⟩
      intro r c
      show (g.set w.target.1 w.target.2 w.value hcell).read r c = _
      rw [Grid.read_set hcell]
      by_cases h : w.target = (r, c)
      · rw [if_pos h, if_pos (Prod.ext_iff.1 h)]
      · rw [if_neg h, if_neg fun hc => h (Prod.ext_iff.2 hc)]

/-- After a write a cell holds its value, if it replaces the cell, and is as before if not. -/
theorem read_perform (w : Write) (g : Grid) (r c : Nat) :
    ((w.perform Grid.stored).run g).2.read r c
      = if w.Replaces g.shape (r, c) then .ok w.value else g.read r c := by
  obtain ⟨hresult, _, hfailed, hreplaced⟩ := w.run_perform g
  cases hok : w.result g.shape with
  | error f =>
    rw [hfailed f (hresult.trans hok), if_neg]
    intro h
    have hsucceeds := h.1
    rw [hok] at hsucceeds
    cases hsucceeds
  | ok _ =>
    have hiff : w.Replaces g.shape (r, c) ↔ w.target = (r, c) := by
      unfold Replaces
      rw [hok]
      exact and_iff_right rfl
    rw [(hreplaced (hresult.trans hok)).2 r c]
    by_cases h : w.target = (r, c)
    · rw [if_pos h, if_pos (hiff.2 h)]
    · rw [if_neg h, if_neg fun hc => h (hiff.1 hc)]

/-- The first write is done, and the others go to the grid that it leaves. -/
theorem run_performAll_cons (w : Write) (ws : List Write) (g : Grid) :
    (performAll (w :: ws) Grid.stored).run g
      = (((w.perform Grid.stored).run g).1
            :: ((performAll ws Grid.stored).run ((w.perform Grid.stored).run g).2).1,
          ((performAll ws Grid.stored).run ((w.perform Grid.stored).run g).2).2) := by
  unfold performAll
  rw [List.mapM_cons]
  rfl

/-- **A run of writes.**  Every answer is settled beforehand, and every cell holds what the last
write to succeed at it left there. -/
theorem run_performAll (g : Grid) (ws : List Write) :
    let o := (performAll ws Grid.stored).run g
    o.1 = ws.map (·.result g.shape) ∧ o.2.shape = g.shape
      ∧ ∀ r c, o.2.read r c
        = ((last ws g.shape (r, c)).map Except.ok).getD (g.read r c) := by
  induction ws generalizing g with
  | nil => exact ⟨rfl, rfl, fun r c => rfl⟩
  | cons w ws ih =>
    obtain ⟨hresult, hshape, _⟩ := w.run_perform g
    obtain ⟨hresults, hshapes, hreads⟩ := ih ((w.perform Grid.stored).run g).2
    -- the rest of the run sees a grid of the same shape
    rw [hshape] at hresults hshapes hreads
    rw [run_performAll_cons]
    refine ⟨?_, hshapes, ?_⟩
    · show _ :: _ = _ :: _
      rw [hresult, hresults]
    · intro r c
      rw [last_cons, hreads r c, w.read_perform g r c]
      -- a later write to the same cell hides this one
      cases last ws g.shape (r, c) with
      | some x => rfl
      | none =>
        by_cases h : w.Replaces g.shape (r, c)
        · rw [if_pos h, if_pos h]
          rfl
        · rw [if_neg h, if_neg h]
          rfl

end Write

/-! ## §3. Engines seen as grids. -/

namespace Engine

section

variable {ρ γ α β X Y : Type}

/-- The action leaves alone what the engine has computed itself, and its answer, if it has one, is
as said. -/
def Spares (P : X → Prop) (a : Action (Memo ρ γ) X) : Prop :=
  ∀ m, (a.run m).state.plain = m.plain ∧ ∀ x, (a.run m).answer = .ok x → P x

/-- What the engine has computed itself may be anything, and is maintained. -/
theorem spares_iff {P : X → Prop} {a : Action (Memo ρ γ) X} :
    Spares P a ↔ ∀ computed, a.Maintains (·.plain = computed) P := by
  constructor
  · rintro h _ m rfl
    exact h m
  · intro h m
    exact h m.plain m rfl

theorem spares_pure {P : X → Prop} {x : X} (hx : P x) :
    Spares P (pure x : Action (Memo ρ γ) X) :=
  spares_iff.2 fun _ => Action.maintains_pure hx

theorem Spares.bind {P : X → Prop} {Q : Y → Prop} {a : Action (Memo ρ γ) X}
    {f : X → Action (Memo ρ γ) Y} (ha : Spares P a) (hf : ∀ x, P x → Spares Q (f x)) :
    Spares Q (a >>= f) :=
  spares_iff.2 fun computed =>
    (spares_iff.1 ha computed).bind fun x hx => spares_iff.1 (hf x hx) computed

/-- Asking for the shape of the grid and writing to it have no effect on what the engine has
computed itself, and no write succeeds. -/
structure Refuses (v : Cells (Action (Memo ρ γ))) : Prop where
  rowCount : Spares (fun _ => True) v.rowCount
  columnCount : Spares (fun _ => True) v.columnCount
  write : ∀ r c x, Spares (· ≠ .ok ()) (v.write r c x)

/-- No layer makes a grid writable. -/
theorem Refuses.around {v : Cells (Action (Memo ρ γ))} (h : Refuses v) (l : Cells.Layer) :
    Refuses (l.around v) := by
  cases l with
  | transposed =>
    refine ⟨h.columnCount, h.rowCount, ?_⟩
    intro r c x
    refine h.columnCount.bind fun rows _ => h.rowCount.bind fun columns _ => ?_
    cases Cells.bounds rows columns r c with
    | ok _ => exact h.write c r x
    | error f => exact spares_pure (by simp)
  | shared => exact ⟨h.rowCount, h.columnCount, fun _ _ _ => spares_pure (by simp)⟩
  | exclusive => exact h

/-- No stack of layers makes the grid writable. -/
theorem Refuses.under {v : Cells (Action (Memo ρ γ))} (h : Refuses v)
    (layers : List Cells.Layer) : Refuses (v.under layers) := by
  induction layers generalizing v with
  | nil => exact h
  | cons l ls ih => exact ih (h.around l)

/-- To open a sequence for its size is no work of the engine's own. -/
theorem refuses_cells (e : Engine ρ γ α β) : Refuses e.cells where
  rowCount := by
    have hopen : Spares (fun _ => True) e.openRows := fun _ => ⟨rfl, fun _ _ => trivial⟩
    exact hopen.bind fun _ _ => spares_pure trivial
  columnCount := by
    have hopen : Spares (fun _ => True) e.openColumns := fun _ => ⟨rfl, fun _ _ => trivial⟩
    exact hopen.bind fun _ _ => spares_pure trivial
  write _ _ _ := spares_pure (by simp)

/-- Put as a query, a write is never answered with success. -/
theorem spares_answer (e : Engine ρ γ α β) (w : Write) :
    Spares (· ≠ .cells (.written (.ok ()))) (e.answer w.query) := by
  have hwrite := (e.refuses_cells.under w.layers).write w.row w.column w.value
  show Spares _ (((e.cells.under w.layers).write w.row w.column w.value >>= _) >>= _)
  rw [bind_assoc]
  refine hwrite.bind fun r hr => ?_
  rw [pure_bind]
  refine spares_pure ?_
  simpa using hr

/-- **A run of writes to an engine**, whatever its sources. -/
theorem session_refuses (e : Engine ρ γ α β) (ws : List Write) (m : Memo ρ γ) :
    let run := e.session (ws.map Write.query) m
    run.2.plain = m.plain ∧ ∀ r ∈ run.1, r.answer ≠ .ok (.cells (.written (.ok ()))) := by
  induction ws generalizing m with
  | nil => exact ⟨rfl, fun r hr => by cases hr⟩
  | cons w ws ih =>
    obtain ⟨hplain, hanswer⟩ := e.spares_answer w m
    obtain ⟨hplains, hanswers⟩ := ih ((e.answer w.query).run m).state
    rw [List.map_cons, session_cons]
    refine ⟨hplains.trans hplain, ?_⟩
    intro r hr
    rcases List.mem_cons.1 hr with rfl | hr
    · exact fun hok => hanswer _ hok rfl
    · exact hanswers r hr

end

variable {α β : Type}

theorem shaped_cells (p : Problem α β) :
    (ofProblem p).cells.Shaped (p.rows.size + 1, p.columns.size + 1) :=
  ⟨rfl, rfl⟩

/-- Over sequences that are simply there a write as a query is refused at once. -/
theorem answer_query (p : Problem α β) (w : Write) :
    (ofProblem p).answer w.query
      = pure (.cells (.written (w.refusal (p.rows.size + 1, p.columns.size + 1)))) := by
  have hwrite : ((ofProblem p).cells.under w.layers).write w.row w.column w.value
      = pure (w.refusal _) :=
    (shaped_cells p).write_under_share w.layers w.row w.column w.value
  show (((ofProblem p).cells.under w.layers).write w.row w.column w.value >>= _) >>= _ = _
  rw [hwrite, pure_bind, pure_bind]
  rfl

/-- Over sequences that are simply there a run of writes does nothing but answer. -/
theorem session_writes (p : Problem α β) (ws : List Write) (m : Memo Unit Unit) :
    (ofProblem p).session (ws.map Write.query) m
      = (ws.map fun w =>
          ⟨.ok (.cells (.written (w.refusal (p.rows.size + 1, p.columns.size + 1)))), []⟩, m) := by
  induction ws with
  | nil => rfl
  | cons w ws ih =>
    rw [List.map_cons, session_cons, answer_query, Action.run_pure, ih]
    rfl

end Engine

/-! ## §4. Grids and engines. -/

/-- **Writes through stacks of layers.**  To a grid: one write, a run of writes, and reads after the
run through other stacks.  To an engine, whatever its sources and whatever it has computed: no write
of a run succeeds, and nothing of it changes.  Over sequences that are simply there the answers are
those of a grid with a shared layer of its own. -/
theorem writes_through_stacks :
    (∀ (g : Grid) (w : Write),
      let o := (w.perform Grid.stored).run g
      o.1 = w.result g.shape ∧ o.2.shape = g.shape
        ∧ (∀ f, o.1 = .error f → o.2 = g)
        ∧ (o.1 = .ok () → g.InRange w.target.1 w.target.2 ∧ ∀ r c, o.2.read r c
          = if w.target = (r, c) then .ok w.value else g.read r c))
    ∧ (∀ (g : Grid) (ws : List Write),
      let o := (Write.performAll ws Grid.stored).run g
      o.1 = ws.map (·.result g.shape) ∧ o.2.shape = g.shape
        ∧ ∀ (layers : List Cells.Layer) (r c : Nat),
          let outer := Cells.shapeUnder layers g.shape
          let cell := Cells.cellUnder layers (r, c)
          ((Grid.stored.under layers).read r c).run o.2
            = (if Cells.inside outer r c then
                ((Write.last ws g.shape cell).map Except.ok).getD (g.read cell.1 cell.2)
              else .error (Cells.outOfRange outer r c), o.2))
    ∧ (∀ {ρ γ α β : Type} (e : Engine ρ γ α β) (ws : List Write) (m : Memo ρ γ),
      let run := e.session (ws.map Write.query) m
      run.2.plain = m.plain ∧ ∀ r ∈ run.1, r.answer ≠ .ok (.cells (.written (.ok ()))))
    ∧ ∀ {α β : Type} (p : Problem α β) (ws : List Write) (m : Memo Unit Unit),
      (Engine.ofProblem p).session (ws.map Write.query) m
        = (ws.map fun w =>
            ⟨.ok (.cells (.written (w.refusal (p.rows.size + 1, p.columns.size + 1)))), []⟩, m) := by
  refine ⟨?_, ?_, ?_, ?_⟩
  · intro g w
    exact w.run_perform g
  · intro g ws o
    obtain ⟨hresults, hshape, hread⟩ := Write.run_performAll g ws
    refine ⟨hresults, hshape, ?_⟩
    intro layers r c outer cell
    rw [Grid.run_read_under, hshape, hread]
  · intro ρ γ α β e ws m
    exact e.session_refuses ws m
  · intro α β p ws m
    exact Engine.session_writes p ws m

/-- One write goes through to cell `(1, 2)`, the next one to the same cell is refused, and a read
through other layers sees what the first one left. -/
theorem writes_through_stacks_mixed :
    let g := Grid.zeros 2 3
    let first : Write := ⟨[.exclusive, .transposed], 2, 1, 99⟩
    let second : Write := ⟨[.shared, .transposed, .exclusive], 2, 1, 5⟩
    let o := (Write.performAll [first, second] Grid.stored).run g
    ((first.perform Grid.stored).run g).1 = .ok () ∧ g.InRange 1 2
      ∧ ((first.perform Grid.stored).run g).2.read 1 2 = .ok 99
      ∧ o.1 = [.ok (), .error .readOnly] ∧ o.2.shape = (2, 3)
      ∧ (((Grid.stored.under [.transposed, .shared]).read 2 1).run o.2).1 = .ok 99 := by
  intro g first second o
  obtain ⟨hresult, _, _, hreplaced⟩ := writes_through_stacks.1 g first
  have hok : ((first.perform Grid.stored).run g).1 = .ok () := hresult.trans rfl
  obtain ⟨hcell, hread⟩ := hreplaced hok
  obtain ⟨hresults, hshape, hreads⟩ := writes_through_stacks.2.1 g [first, second]
  refine ⟨hok, hcell, (hread 1 2).trans rfl, hresults.trans rfl, hshape, ?_⟩
  exact congrArg Prod.fst (hreads [.transposed, .shared] 2 1)

end CommonSubsequence
