/-
  CommonSubsequence.Proofs.Openings — engines over sources that work once.

  A source does its work when it is opened for the first time, and from then on hands out the same
  sequence in silence (`Opening`).  An engine over two such sources must therefore have heard
  either nothing or everything from each of them, according to whether it has opened it, and it
  opens both before it fills its grid (`Nest.Account`).

  Apart from that the engine does, work for work, what the engine of the opened sequences does
  (`Nest.Keeps`).  Programs respect this relation, so it holds of everything that an engine does
  as soon as it holds of single steps.

  Main results:
    * `Nest.rel_grid`, `Nest.rel_path`, `Nest.rel_common` — the work of an engine.
    * `Nest.rel_answer` — every query.
-/
import CommonSubsequence.Engine.Session
import CommonSubsequence.Proofs.Correspondence

namespace CommonSubsequence

/-! ## §1. Sources that work once. -/

/-- A source with what it does when it is opened for the first time, and what it does later. -/
structure Opening (σ α : Type) where
  source : Source σ α
  elements : Indexed α
  /-- The state before the first time. -/
  fresh : σ
  /-- The state from then on. -/
  spent : σ
  /-- What is reported the first time. -/
  log : List Entry
  run_fresh : Action.run source fresh = ⟨.ok elements, spent, log⟩
  run_spent : Action.run source spent = ⟨.ok elements, spent, []⟩

namespace Opening

variable {σ τ α : Type} {O : Opening σ α} {s : σ} {l : List Entry}

/-- The source has not been opened and nothing was heard of it, or it has been opened and all was
heard. -/
def Accounts (O : Opening σ α) (s : σ) (l : List Entry) : Prop :=
  (s = O.fresh ∧ l = []) ∨ (s = O.spent ∧ l = O.log)

/-- Opening the source completes what was heard of it. -/
theorem Accounts.run (h : O.Accounts s l) :
    ∃ l', Action.run O.source s = ⟨.ok O.elements, O.spent, l'⟩ ∧ l ++ l' = O.log := by
  rcases h with ⟨rfl, rfl⟩ | ⟨rfl, rfl⟩
  · exact ⟨O.log, O.run_fresh, rfl⟩
  · exact ⟨[], O.run_spent, List.append_nil _⟩

/-- Opening the source along an axis completes what was heard from there, and nothing is heard from
anywhere else. -/
theorem Accounts.run_along {H : List Entry} {part : τ → σ} {t : τ} (axis : Axis)
    (restore : σ → τ → τ) (h : O.Accounts (part t) (Entry.heard axis H)) :
    ∃ l : List Entry, (Action.along axis part restore O.source).run t
        = ⟨.ok O.elements, restore O.spent t, l.map (.along axis)⟩
      ∧ Entry.heard axis (H ++ l.map (.along axis)) = O.log
      ∧ ∀ other, axis ≠ other →
        Entry.heard other (H ++ l.map (.along axis)) = Entry.heard other H := by
  obtain ⟨l, hrun, hlog⟩ := h.run
  refine ⟨l, Action.run_along axis _ hrun, ?_, ?_⟩
  · rw [Entry.heard_append, Entry.heard_along]
    exact hlog
  · intro other hne
    rw [Entry.heard_append, Entry.heard_along_of_ne hne, List.append_nil]

end Opening

/-! ## §2. Engines over such sources. -/

/-- Two sources that work once, and a verdict on their elements. -/
structure Nest (ρ γ α β : Type) where
  rows : Opening ρ α
  columns : Opening γ β
  agree : α → β → Bool

/-- What an engine has computed itself. -/
def Memo.plain {ρ γ : Type} (m : Memo ρ γ) : Memo Unit Unit :=
  ⟨(), (), m.grid, m.path⟩

namespace Nest

variable {ρ γ α β X Y : Type} {N : Nest ρ γ α β} {H l : List Entry} {m : Memo ρ γ}

/-- The engine over the two sources. -/
def engine (N : Nest ρ γ α β) : Engine ρ γ α β :=
  ⟨N.rows.source, N.columns.source, N.agree⟩

/-- The two sequences, as they are once they are opened. -/
def problem (N : Nest ρ γ α β) : Problem α β :=
  ⟨N.rows.elements, N.columns.elements, N.agree⟩

/-- All that a source has to say. -/
def log (N : Nest ρ γ α β) : Axis → List Entry
  | .rows => N.rows.log
  | .columns => N.columns.log

/-- Before the engine itself reports a grid, everything has been heard from both sources. -/
def Prepared (N : Nest ρ γ α β) (H : List Entry) : Prop :=
  ∀ pre e post, H = pre ++ e :: post → e.sender = [] → e.record.reportsGrid = true →
    ∀ axis, Entry.heard axis pre = N.log axis

/-- It is enough to look at the entries that are new. -/
theorem Prepared.append (h : N.Prepared H)
    (hl : ∀ l₁ e l₂, l = l₁ ++ e :: l₂ → e.sender = [] → e.record.reportsGrid = true →
      ∀ axis, Entry.heard axis (H ++ l₁) = N.log axis) : N.Prepared (H ++ l) := by
  intro pre e post hsplit hown hgrid
  rcases List.append_eq_append_iff.1 hsplit with ⟨l₁, rfl, hnew⟩ | ⟨l₂, hold, hrest⟩
  · exact hl l₁ e post hnew hown hgrid
  · cases l₂ with
    | nil =>
      rw [List.append_nil] at hold
      have hfirst := hl [] e post hrest.symm hown hgrid
      rw [List.append_nil, hold] at hfirst
      exact hfirst
    | cons e' l₂ =>
      cases hrest
      exact h pre e l₂ hold hown hgrid

/-- The memo fits all that the engine has sent so far: what was heard from each source belongs to
its state, and no grid was reported before both were opened. -/
structure Account (N : Nest ρ γ α β) (H : List Entry) (m : Memo ρ γ) : Prop where
  rows : N.rows.Accounts m.rows (Entry.heard .rows H)
  columns : N.columns.Accounts m.columns (Entry.heard .columns H)
  prepared : N.Prepared H

/-- An engine that has sent nothing yet. -/
theorem account_fresh (N : Nest ρ γ α β) :
    N.Account [] (.fresh N.rows.fresh N.columns.fresh) where
  rows := Or.inl ⟨rfl, rfl⟩
  columns := Or.inl ⟨rfl, rfl⟩
  prepared pre e post h := by
    cases pre <;> cases h

/-- Nothing or everything was heard from each source. -/
theorem Account.heard (h : N.Account H m) (axis : Axis) :
    Entry.heard axis H = [] ∨ Entry.heard axis H = N.log axis := by
  cases axis with
  | rows => exact h.rows.imp And.right And.right
  | columns => exact h.columns.imp And.right And.right

/-- Records of the engine's own leave the sources alone. -/
theorem Account.own (h : N.Account H m) (rs : List Record)
    (hrs : ∀ r ∈ rs, r.reportsGrid = true → ∀ axis, Entry.heard axis H = N.log axis) :
    N.Account (H ++ rs.map .own) m := by
  have hheard : ∀ axis (rs : List Record),
      Entry.heard axis (H ++ rs.map .own) = Entry.heard axis H := by
    intro axis rs
    rw [Entry.heard_append, Entry.heard_own, List.append_nil]
  refine ⟨?_, ?_, h.prepared.append ?_⟩
  · rw [hheard]
    exact h.rows
  · rw [hheard]
    exact h.columns
  · intro l₁ e l₂ hsplit _ hgrid axis
    obtain ⟨rs₁, rs₂, rfl, rfl, hrest⟩ := List.map_eq_append_iff.1 hsplit
    obtain ⟨r, rs₂, rfl, rfl, _⟩ := List.map_eq_cons_iff.1 hrest
    rw [hheard]
    exact hrs r (List.mem_append_right rs₁ List.mem_cons_self) hgrid axis

/-- What comes from a source reports no grid of the engine's own. -/
theorem Prepared.along (h : N.Prepared H) (axis : Axis) (l : List Entry) :
    N.Prepared (H ++ l.map (.along axis)) := by
  refine h.append ?_
  intro l₁ e l₂ hsplit hown
  have hmem : e ∈ l.map (Entry.along axis) := by
    rw [hsplit]
    exact List.mem_append_right l₁ List.mem_cons_self
  obtain ⟨e', _, rfl⟩ := List.mem_map.1 hmem
  cases hown

/-! ## §3. Work that is done alike. -/

/-- After the history `H`, the action does from the memo `m` what the other one does from what the
engine has computed itself: the same answer, the same results stored and the same records sent, if
those of the sources are left out. -/
structure Keeps (N : Nest ρ γ α β) (H : List Entry) (m : Memo ρ γ)
    (a : Action (Memo ρ γ) X) (b : Action (Memo Unit Unit) X) : Prop where
  answer : (a.run m).answer = (b.run m.plain).answer
  state : (a.run m).state.plain = (b.run m.plain).state
  spoken : Entry.spoken (a.run m).log = (b.run m.plain).log
  account : N.Account (H ++ (a.run m).log) (a.run m).state

/-- **Work after work.**  What comes next starts after the history that the first has added to. -/
theorem Keeps.bind {a : Action (Memo ρ γ) X} {b : Action (Memo Unit Unit) X}
    {f : X → Action (Memo ρ γ) Y} {h : X → Action (Memo Unit Unit) Y} (hab : N.Keeps H m a b)
    (hfh : ∀ x, (a.run m).answer = .ok x →
      N.Keeps (H ++ (a.run m).log) (a.run m).state (f x) (h x)) :
    N.Keeps H m (a >>= f) (b >>= h) := by
  obtain ⟨hanswer, hstate, hspoken, haccount⟩ := hab
  rcases hb : b.run m.plain with ⟨r, s, l⟩
  rw [hb] at hanswer hstate hspoken
  rcases ha : a.run m with ⟨r', m', l'⟩
  rw [ha] at hanswer hstate hspoken haccount hfh
  dsimp only at hanswer hstate hspoken haccount hfh
  subst hanswer hstate hspoken
  cases r' with
  | error e =>
    refine ⟨?_, ?_, ?_, ?_⟩ <;> rw [Action.run_bind_of_error ha]
    · rw [Action.run_bind_of_error hb]
    · rw [Action.run_bind_of_error hb]
    · rw [Action.run_bind_of_error hb]
    · exact haccount
  | ok x =>
    obtain ⟨hanswer, hstate, hspoken, haccount⟩ := hfh x rfl
    refine ⟨?_, ?_, ?_, ?_⟩ <;> rw [Action.run_bind_of_ok ha]
    · rw [Action.run_bind_of_ok hb]
      exact hanswer
    · rw [Action.run_bind_of_ok hb]
      exact hstate
    · rw [Action.run_bind_of_ok hb, Entry.spoken_append, hspoken]
    · rw [← List.append_assoc]
      exact haccount

/-- Actions that do alike whatever happened before. -/
def following (N : Nest ρ γ α β) :
    Correspondence (Action (Memo ρ γ)) (Action (Memo Unit Unit)) where
  rel a b := ∀ H m, N.Account H m → N.Keeps H m a b
  rel_pure _ H _ h := ⟨rfl, rfl, rfl, (List.append_nil H).symm ▸ h⟩
  rel_bind hab hfh H m h := (hab H m h).bind fun x _ => hfh x _ _ (hab H m h).account

theorem rel_ofExcept (N : Nest ρ γ α β) (r : Except Fault X) :
    N.following.rel (.ofExcept r) (.ofExcept r) := by
  intro H m h
  refine ⟨?_, ?_, ?_, ?_⟩ <;> rw [Action.run_ofExcept]
  · rw [Action.run_ofExcept]
  · rw [Action.run_ofExcept]
  · rw [Action.run_ofExcept]
    rfl
  · rw [List.append_nil]
    exact h

/-- What is stored may be looked up. -/
theorem rel_get {f : Memo ρ γ → Action (Memo ρ γ) X}
    {h : Memo Unit Unit → Action (Memo Unit Unit) X}
    (hfh : ∀ m, N.following.rel (f m) (h m.plain)) :
    N.following.rel (Action.get >>= f) (Action.get >>= h) := by
  intro H m hm
  obtain ⟨hanswer, hstate, hspoken, haccount⟩ := hfh m H m hm
  exact ⟨hanswer, hstate, hspoken, haccount⟩

/-- Results may be stored. -/
theorem rel_modify {f : Memo ρ γ → Memo ρ γ} {f' : Memo Unit Unit → Memo Unit Unit}
    (hplain : ∀ m, (f m).plain = f' m.plain) (hrows : ∀ m, (f m).rows = m.rows)
    (hcolumns : ∀ m, (f m).columns = m.columns) :
    N.following.rel (Action.modify f) (Action.modify f') := by
  intro H m h
  refine ⟨rfl, hplain m, rfl, ?_⟩
  show N.Account (H ++ []) (f m)
  rw [List.append_nil]
  exact ⟨(hrows m).symm ▸ h.rows, (hcolumns m).symm ▸ h.columns, h.prepared⟩

/-- Records that report no grid may be sent at any time. -/
theorem rel_send (N : Nest ρ γ α β) {rs : List Record}
    (hrs : ∀ r ∈ rs, r.reportsGrid = false) :
    N.following.rel (Action.send rs) (Action.send rs) := by
  intro H m h
  refine ⟨rfl, rfl, Entry.spoken_own rs, h.own rs ?_⟩
  intro r hr hgrid
  rw [hrs r hr] at hgrid
  cases hgrid

/-! ## §4. The work of an engine. -/

/-- Opening the rows completes what was heard of them. -/
theorem run_openRows (h : N.Account H m) :
    ∃ l : List Entry, N.engine.openRows.run m
        = ⟨.ok N.problem.rows, { m with rows := N.rows.spent }, l.map (.along .rows)⟩
      ∧ Entry.heard .rows (H ++ l.map (.along .rows)) = N.log .rows
      ∧ N.Account (H ++ l.map (.along .rows)) { m with rows := N.rows.spent } := by
  obtain ⟨l, hrun, hheard, hother⟩ := h.rows.run_along .rows fun s m => { m with rows := s }
  refine ⟨l, hrun, hheard, Or.inr ⟨rfl, hheard⟩, ?_, h.prepared.along .rows l⟩
  rw [hother .columns (by decide)]
  exact h.columns

/-- Opening the columns completes what was heard of them. -/
theorem run_openColumns (h : N.Account H m) :
    ∃ l : List Entry, N.engine.openColumns.run m
        = ⟨.ok N.problem.columns, { m with columns := N.columns.spent }, l.map (.along .columns)⟩
      ∧ Entry.heard .columns (H ++ l.map (.along .columns)) = N.log .columns
      ∧ N.Account (H ++ l.map (.along .columns)) { m with columns := N.columns.spent } := by
  obtain ⟨l, hrun, hheard, hother⟩ :=
    h.columns.run_along .columns fun s m => { m with columns := s }
  refine ⟨l, hrun, hheard, ?_, Or.inr ⟨rfl, hheard⟩, h.prepared.along .columns l⟩
  rw [hother .rows (by decide)]
  exact h.rows

/-- What a source does is not seen in the results and records of the engine itself. -/
theorem keeps_along {a : Action (Memo ρ γ) X} {b : Action (Memo Unit Unit) X} {x : X}
    {m' : Memo ρ γ} {axis : Axis} (ha : a.run m = ⟨.ok x, m', l.map (.along axis)⟩)
    (hb : b.run m.plain = ⟨.ok x, m.plain, []⟩) (hplain : m'.plain = m.plain)
    (haccount : N.Account (H ++ l.map (.along axis)) m') : N.Keeps H m a b := by
  refine ⟨?_, ?_, ?_, ?_⟩ <;> rw [ha]
  · rw [hb]
  · rw [hb]
    exact hplain
  · rw [hb]
    exact Entry.spoken_along axis l
  · exact haccount

theorem rel_openRows (N : Nest ρ γ α β) :
    N.following.rel N.engine.openRows (Engine.ofProblem N.problem).openRows := by
  intro H m h
  obtain ⟨l, hrun, _, haccount⟩ := run_openRows h
  exact keeps_along hrun rfl rfl haccount

theorem rel_openColumns (N : Nest ρ γ α β) :
    N.following.rel N.engine.openColumns (Engine.ofProblem N.problem).openColumns := by
  intro H m h
  obtain ⟨l, hrun, _, haccount⟩ := run_openColumns h
  exact keeps_along hrun rfl rfl haccount

theorem rel_openProblem (N : Nest ρ γ α β) :
    N.following.rel N.engine.openProblem (Engine.ofProblem N.problem).openProblem :=
  N.following.rel_bind N.rel_openRows fun _ =>
    N.following.rel_bind N.rel_openColumns fun _ => N.following.rel_pure _

/-- Once both sequences are open, everything was heard from both sources. -/
theorem heard_openProblem (h : N.Account H m) (axis : Axis) :
    (N.engine.openProblem.run m).answer = .ok N.problem
      ∧ Entry.heard axis (H ++ (N.engine.openProblem.run m).log) = N.log axis := by
  obtain ⟨lr, hrows, hheardRows, haccount⟩ := run_openRows h
  obtain ⟨lc, hcolumns, hheardColumns, _⟩ := run_openColumns haccount
  unfold Engine.openProblem
  rw [Action.run_bind_of_ok hrows, Action.run_bind_of_ok hcolumns, Action.run_pure]
  refine ⟨rfl, ?_⟩
  show Entry.heard axis (H ++ (lr.map (.along .rows) ++ (lc.map (.along .columns) ++ []))) = _
  rw [List.append_nil, ← List.append_assoc]
  cases axis with
  | rows =>
    rw [Entry.heard_append, Entry.heard_along_of_ne (by decide), List.append_nil]
    exact hheardRows
  | columns => exact hheardColumns

/-- The grid is reported when both sequences are open. -/
theorem rel_computeGrid (N : Nest ρ γ α β) :
    N.following.rel N.engine.computeGrid (Engine.ofProblem N.problem).computeGrid := by
  intro H m h
  refine (N.rel_openProblem H m h).bind fun p hp => ?_
  have haccount := (N.rel_openProblem H m h).account
  have hheard := fun axis => (heard_openProblem h axis).2
  generalize H ++ (N.engine.openProblem.run m).log = H' at haccount hheard
  generalize (N.engine.openProblem.run m).state = m' at haccount
  refine (N.rel_ofExcept p.fill H' m' haccount).bind fun g _ => ?_
  rw [Action.run_ofExcept, List.append_nil]
  refine (N.rel_ofExcept (p.corner g) H' m' haccount).bind fun corner _ => ?_
  rw [Action.run_ofExcept, List.append_nil]
  have hsend : N.Keeps H' m' (Action.send [.gridComputed g.rows g.columns corner])
      (Action.send [.gridComputed g.rows g.columns corner]) :=
    ⟨rfl, rfl, Entry.spoken_own _, haccount.own _ fun _ _ _ => hheard⟩
  exact hsend.bind fun _ _ => N.following.rel_pure g _ _ hsend.account

/-- The grid, stored or computed, is handed out alike. -/
theorem rel_grid (N : Nest ρ γ α β) :
    N.following.rel N.engine.grid (Engine.ofProblem N.problem).grid := by
  refine rel_get fun m => ?_
  have hplain : m.plain.grid = m.grid := rfl
  rw [hplain]
  cases m.grid with
  | some g => exact N.following.rel_pure g
  | none =>
    refine N.following.rel_bind N.rel_computeGrid fun g => ?_
    refine N.following.rel_bind (rel_modify ?_ ?_ ?_) fun _ => N.following.rel_pure g
    · exact fun _ => rfl
    · exact fun _ => rfl
    · exact fun _ => rfl

theorem rel_length (N : Nest ρ γ α β) :
    N.following.rel N.engine.length (Engine.ofProblem N.problem).length :=
  N.following.rel_bind N.rel_grid fun g => N.following.rel_bind N.rel_openProblem fun p =>
    N.following.rel_bind (N.rel_ofExcept (p.corner g)) fun _ => N.following.rel_pure _

theorem rel_backtrack (N : Nest ρ γ α β) :
    N.following.rel N.engine.backtrack (Engine.ofProblem N.problem).backtrack :=
  N.following.rel_bind N.rel_grid fun g => N.following.rel_bind N.rel_openProblem fun p =>
    N.following.rel_bind (N.rel_send fun _ => Trail.reportsGrid_records) fun _ =>
      N.rel_ofExcept (p.backtrack g).path

/-- The path, stored or walked for, is handed out alike. -/
theorem rel_path (N : Nest ρ γ α β) :
    N.following.rel N.engine.path (Engine.ofProblem N.problem).path := by
  refine rel_get fun m => ?_
  have hplain : m.plain.path = m.path := rfl
  rw [hplain]
  cases m.path with
  | some path => exact N.following.rel_pure path
  | none =>
    refine N.following.rel_bind N.rel_backtrack fun path => ?_
    refine N.following.rel_bind (rel_modify ?_ ?_ ?_) fun _ => N.following.rel_pure path
    · exact fun _ => rfl
    · exact fun _ => rfl
    · exact fun _ => rfl

theorem rel_common (N : Nest ρ γ α β) :
    N.following.rel N.engine.common (Engine.ofProblem N.problem).common :=
  N.following.rel_bind N.rel_path fun _ => N.following.rel_bind N.rel_openRows fun _ =>
    N.following.rel_pure _

/-- Seen as grids, the two engines correspond access by access. -/
theorem grids (N : Nest ρ γ α β) :
    N.following.Grids N.engine.cells (Engine.ofProblem N.problem).cells where
  rowCount := N.following.rel_bind N.rel_openRows fun _ => N.following.rel_pure _
  columnCount := N.following.rel_bind N.rel_openColumns fun _ => N.following.rel_pure _
  read _ _ := N.following.rel_bind N.rel_grid fun _ => N.following.rel_pure _
  write _ _ _ := N.following.rel_pure _

/-! ## §5. Queries. -/

/-- A result that depends on the answer may be taken over. -/
theorem rel_taken {Z : Type} {a : Action (Memo ρ γ) X} {b : Action (Memo Unit Unit) X}
    (hab : N.following.rel a b) (r : X → Except Fault Y) (f : Y → Z) :
    N.following.rel (a >>= fun x => .ofExcept (r x) >>= fun y => pure (f y))
      (b >>= fun x => .ofExcept (r x) >>= fun y => pure (f y)) :=
  N.following.rel_bind hab fun x => N.following.rel_bind (N.rel_ofExcept (r x)) fun y =>
    N.following.rel_pure (f y)

/-- **One query.**  The engine over the two sources does as the engine over the opened sequences
does. -/
theorem rel_answer (N : Nest ρ γ α β) (q : Engine.Query α β) :
    N.following.rel (N.engine.answer q) ((Engine.ofProblem N.problem).answer q) := by
  cases q with
  | cellCount =>
    have hcount : N.following.rel N.engine.cellCount (Engine.ofProblem N.problem).cellCount :=
      N.following.rel_bind N.rel_openProblem fun _ => N.following.rel_pure _
    exact N.following.rel_bind hcount fun _ => N.following.rel_pure _
  | length => exact N.following.rel_bind N.rel_length fun _ => N.following.rel_pure _
  | backtrack => exact N.following.rel_bind N.rel_backtrack fun _ => N.following.rel_pure _
  | pathIsBacktrack =>
    exact N.following.rel_bind N.rel_backtrack fun _ =>
      N.following.rel_bind N.rel_path fun _ => N.following.rel_pure _
  | table layers q => exact rel_taken ((N.grids.under layers).answer q) id _
  | grid layers q => exact rel_taken N.rel_grid _ _
  | gridText => exact N.following.rel_bind N.rel_grid fun _ => N.following.rel_pure _
  | rows q => exact rel_taken N.rel_openRows _ _
  | columns q => exact rel_taken N.rel_openColumns _ _
  | pairs => exact N.following.rel_bind N.rel_path fun _ => N.following.rel_pure _
  | path q => exact rel_taken N.rel_path _ _
  | common q => exact rel_taken N.rel_common _ _

end Nest

end CommonSubsequence
