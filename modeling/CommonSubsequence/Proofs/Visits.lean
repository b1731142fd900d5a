/-
  CommonSubsequence.Proofs.Visits — queries that read an engine like a grid.

  Over sequences that are simply there, such a query is never abandoned, and all that it can
  change is whether the grid is stored.  It either visits the grid, which computes and reports it
  unless it is stored, or leaves everything alone (`Engine.Visits`).  Its answer is the one that
  the computed grid itself gives, behind the same layers.

  Which of the two happens is decided by the layers and the coordinates (`Engine.Shows`): a layer
  that is transposed asks for the shape first and hands on only coordinates inside of it.

  Main results:
    * `Engine.Shows.under` — what layers make of visits.
    * `Engine.visits_table` — every query to an engine as a grid.
-/
import CommonSubsequence.Engine.Demand
import CommonSubsequence.Proofs.Correspondence
import CommonSubsequence.Proofs.Filling

namespace CommonSubsequence

namespace Memo

/-- The memo after a visit to the grid, if there was one. -/
def visited (g : Grid) (visit : Bool) (m : Memo Unit Unit) : Memo Unit Unit :=
  if visit then { m with grid := some g } else m

/-- What a visit to the grid reports: the finished grid, unless it is stored. -/
def visitLog (g : Grid) (w : Int32) (visit : Bool) (m : Memo Unit Unit) : List Entry :=
  if visit && m.grid.isNone then [.own (.gridComputed g.rows g.columns w)] else []

/-- A visit to a grid that is not stored reports it. -/
theorem visitLog_of_missing {m : Memo Unit Unit} {g : Grid} {w : Int32} (h : m.grid = none) :
    m.visitLog g w true = [.own (.gridComputed g.rows g.columns w)] := by
  unfold visitLog
  rw [h]
  rfl

end Memo

namespace Engine

variable {α β X Y : Type} {p : Problem α β} {g : Grid} {w : Int32}

/-! ## §1. Visits. -/

/-- The action answers `x` from every memo that stores no other grid than `g`, and visits the grid
or leaves everything alone. -/
def Visits (g : Grid) (w : Int32) (visit : Bool) (a : Action (Memo Unit Unit) X) (x : X) : Prop :=
  ∀ m : Memo Unit Unit, (m.grid = none ∨ m.grid = some g) →
    a.run m = ⟨.ok x, m.visited g visit, m.visitLog g w visit⟩

theorem visits_pure (x : X) : Visits g w false (pure x) x := by
  intro m _
  rfl

/-- After a visit nothing but the grid is stored. -/
theorem grid_visited {m : Memo Unit Unit} (hm : m.grid = none ∨ m.grid = some g) (visit : Bool) :
    (m.visited g visit).grid = none ∨ (m.visited g visit).grid = some g := by
  cases visit with
  | true => exact Or.inr rfl
  | false => exact hm

/-- One visit after another is one visit. -/
theorem visited_visited (m : Memo Unit Unit) (b b' : Bool) :
    (m.visited g b).visited g b' = m.visited g (b || b') := by
  cases b <;> cases b' <;> rfl

/-- The second visit finds the grid stored. -/
theorem visitLog_append (m : Memo Unit Unit) (b b' : Bool) :
    m.visitLog g w b ++ (m.visited g b).visitLog g w b' = m.visitLog g w (b || b') := by
  unfold Memo.visitLog Memo.visited
  cases b with
  | true => simp
  | false => rfl

/-- Two actions visit the grid if one of them does. -/
theorem Visits.bind {b b' : Bool} {a : Action (Memo Unit Unit) X} {x : X}
    {f : X → Action (Memo Unit Unit) Y} {y : Y} (ha : Visits g w b a x)
    (hf : Visits g w b' (f x) y) : Visits g w (b || b') (a >>= f) y := by
  intro m hm
  rw [Action.run_bind_of_ok (ha m hm), hf _ (grid_visited hm b), visited_visited, visitLog_append]

theorem Visits.map {b : Bool} {a : Action (Memo Unit Unit) X} {x : X} (ha : Visits g w b a x)
    (f : X → Y) : Visits g w b (a >>= fun x => pure (f x)) (f x) := by
  have h : Visits g w (b || false) (a >>= fun x => pure (f x)) (f x) :=
    ha.bind (visits_pure (f x))
  rw [Bool.or_false] at h
  exact h

/-- Asking for the grid is a visit. -/
theorem visits_grid (h : p.Filled g w) : Visits g w true (ofProblem p).grid g := by
  intro m hm
  rcases hm with hm | hm
  · rw [run_grid_of_missing p hm h.fill h.corner, Memo.visitLog_of_missing hm]
    rfl
  · rw [run_grid_of_stored _ hm, Memo.visitLog, hm, Memo.visited]
    cases m
    subst hm
    rfl

/-- Actions that visit the grid or leave everything alone, and their answers. -/
def visiting (g : Grid) (w : Int32) : Correspondence (Action (Memo Unit Unit)) Id where
  rel a x := ∃ b, Visits g w b a x.run
  rel_pure x := ⟨false, visits_pure x⟩
  rel_bind ha hf := by
    obtain ⟨b, ha⟩ := ha
    obtain ⟨b', hf⟩ := hf _
    exact ⟨b || b', ha.bind hf⟩

/-! ## §2. Grids seen from outside. -/

/-- The view `v` answers as the grid view `u`, of the given shape.  Its shape is known without a
visit, a write is none, and a read visits the grid at all coordinates, if `always`, or at those
inside the shape. -/
structure Shows (g : Grid) (w : Int32) (v : Cells (Action (Memo Unit Unit))) (u : Cells Id)
    (shape : Nat × Nat) (always : Bool) : Prop where
  rowCount : Visits g w false v.rowCount shape.1
  columnCount : Visits g w false v.columnCount shape.2
  rowCount_eq : u.rowCount.run = shape.1
  columnCount_eq : u.columnCount.run = shape.2
  read : ∀ r c, Visits g w (always || Cells.inside shape r c) (v.read r c) (u.read r c).run
  write : ∀ r c x, Visits g w false (v.write r c x) (u.write r c x).run

namespace Shows

variable {v : Cells (Action (Memo Unit Unit))} {u : Cells Id} {shape : Nat × Nat} {always : Bool}

/-- Such a view and the view of the grid correspond access by access. -/
theorem grids (h : Shows g w v u shape always) : (visiting g w).Grids v u where
  rowCount := ⟨false, h.rowCount_eq.symm ▸ h.rowCount⟩
  columnCount := ⟨false, h.columnCount_eq.symm ▸ h.columnCount⟩
  read r c := ⟨_, h.read r c⟩
  write r c x := ⟨false, h.write r c x⟩

/-- An access behind a transposed layer is handed on exactly at coordinates inside the shape. -/
theorem visits_checked {b : Bool} (h : Shows g w v u shape always)
    {a : Action (Memo Unit Unit) (Except Fault X)} {x : Id (Except Fault X)} {r c : Nat}
    (ha : Cells.inside (shape.2, shape.1) r c = true → Visits g w b a x.run) :
    Visits g w (Cells.inside (shape.2, shape.1) r c && b)
      (do
        let rows ← v.columnCount
        let columns ← v.rowCount
        match Cells.bounds rows columns r c with
        | .ok () => a
        | .error f => pure (.error f))
      (do
        let rows ← u.columnCount
        let columns ← u.rowCount
        match Cells.bounds rows columns r c with
        | .ok () => x
        | .error f => pure (.error f) : Id (Except Fault X)).run := by
  have hu : u.rowCount = pure shape.1 ∧ u.columnCount = pure shape.2 :=
    ⟨h.rowCount_eq, h.columnCount_eq⟩
  rw [hu.1, hu.2, pure_bind, pure_bind]
  refine h.columnCount.bind (h.rowCount.bind ?_)
  have hiff : Cells.inside (shape.2, shape.1) r c = true ↔ r < shape.2 ∧ c < shape.1 :=
    Cells.inside_iff
  by_cases hin : r < shape.2 ∧ c < shape.1
  · rw [hiff.2 hin, Cells.bounds, if_pos hin]
    exact ha (hiff.2 hin)
  · rw [Bool.eq_false_iff.2 fun hinside => hin (hiff.1 hinside), Cells.bounds, if_neg hin]
    exact visits_pure _

/-- Behind a transposed layer no coordinates outside the shape visit the grid. -/
theorem transpose (h : Shows g w v u shape always) :
    Shows g w v.transpose u.transpose (shape.2, shape.1) false where
  rowCount := h.columnCount
  columnCount := h.rowCount
  rowCount_eq := h.columnCount_eq
  columnCount_eq := h.rowCount_eq
  read r c := by
    rw [Bool.false_or, ← Bool.and_true (Cells.inside _ r c)]
    refine h.visits_checked fun hin => ?_
    -- inside the exchanged shape the exchanged coordinates lie inside the shape
    have hinside : Cells.inside shape c r = true := by
      rw [← hin]
      exact Bool.and_comm _ _
    have hread := h.read c r
    rw [hinside, Bool.or_true] at hread
    exact hread
  write r c x := by
    have hwrite := h.visits_checked (b := false) (r := r) (c := c) fun _ => h.write c r x
    rw [Bool.and_false] at hwrite
    exact hwrite

theorem share (h : Shows g w v u shape always) : Shows g w v.share u.share shape always :=
  ⟨h.rowCount, h.columnCount, h.rowCount_eq, h.columnCount_eq, h.read, fun _ _ _ => visits_pure _⟩

/-- **What layers make of visits.**  Behind a transposed layer only coordinates inside the shape
visit the grid; other layers change nothing about it. -/
theorem under (h : Shows g w v u shape always) (layers : List Cells.Layer) :
    Shows g w (v.under layers) (u.under layers) (Cells.shapeUnder layers shape)
      (always && !layers.contains .transposed) := by
  induction layers generalizing v u shape always with
  | nil =>
    rw [show (always && !([] : List Cells.Layer).contains .transposed) = always from
      Bool.and_true always]
    exact h
  | cons l ls ih =>
    rw [Cells.under_cons, Cells.under_cons, Cells.shapeUnder_cons, List.contains_cons]
    cases l with
    | transposed =>
      have hls := ih h.transpose
      rw [Bool.false_and] at hls
      show Shows g w _ _ _ (always && !(true || _))
      rw [Bool.true_or, Bool.not_true, Bool.and_false]
      exact hls
    | shared => exact ih h.share
    | exclusive => exact ih h

/-! ## §3. All cells at once. -/

/-- If the first read visits the grid, it does not matter which of the others do. -/
theorem visits_collect {f : Nat → ExceptT Fault (Action (Memo Unit Unit)) X}
    {k : Nat → ExceptT Fault Id X} {n i : Nat} (hn : 0 < n)
    (hfirst : Visits g w true (f i).run (k i).run.run)
    (hrest : ∀ j, (visiting g w).excepts.rel (f j) (k j)) :
    Visits g w true (Cells.collect f n i).run (Cells.collect k n i).run.run := by
  cases n with
  | zero => exact absurd hn (Nat.lt_irrefl 0)
  | succ n =>
    unfold Cells.collect
    show Visits g w true ((f i).run >>= _) _
    have hlater : ∀ x, (visiting g w).excepts.rel
        (do let xs ← Cells.collect f n (i + 1); pure (x :: xs))
        (do let xs ← Cells.collect k n (i + 1); pure (x :: xs)) := by
      intro x
      refine (visiting g w).excepts.rel_bind (Correspondence.rel_collect hrest n (i + 1)) ?_
      exact fun xs => (visiting g w).excepts.rel_pure (x :: xs)
    cases hk : (k i).run.run with
    | error e =>
      rw [hk] at hfirst
      have hk' : k i = ExceptT.mk (.error e : Id (Except Fault X)) := hk
      rw [hk']
      exact hfirst.bind (visits_pure _)
    | ok x =>
      rw [hk] at hfirst
      obtain ⟨b, hx⟩ := hlater x
      have hk' : k i = ExceptT.mk (.ok x : Id (Except Fault X)) := hk
      rw [hk']
      exact hfirst.bind hx

/-- To read out a grid that has a cell is a visit. -/
theorem visits_dump (h : Shows g w v u shape always) (hpos : Cells.inside shape 0 0 = true) :
    Visits g w true v.dump u.dump.run := by
  have hcell : ∀ r c, (visiting g w).excepts.rel (ExceptT.mk (v.read r c))
      (ExceptT.mk (u.read r c)) := h.grids.read
  have hfirst := h.read 0 0
  rw [hpos, Bool.or_true] at hfirst
  obtain ⟨hrows_pos, hcolumns_pos⟩ := Cells.inside_iff.1 hpos
  have hrow := visits_collect (f := fun c => ExceptT.mk (v.read 0 c))
    (k := fun c => ExceptT.mk (u.read 0 c)) hcolumns_pos hfirst (hcell 0)
  have hrows := visits_collect
    (f := fun r => Cells.collect (fun c => ExceptT.mk (v.read r c)) shape.2 0)
    (k := fun r => Cells.collect (fun c => ExceptT.mk (u.read r c)) shape.2 0) hrows_pos
    hrow (fun r => Correspondence.rel_collect (hcell r) shape.2 0)
  have hu : u.rowCount = pure shape.1 ∧ u.columnCount = pure shape.2 :=
    ⟨h.rowCount_eq, h.columnCount_eq⟩
  unfold Cells.dump
  rw [hu.1, hu.2, pure_bind, pure_bind]
  exact h.rowCount.bind (h.columnCount.bind hrows)

end Shows

/-! ## §4. The engine as a grid. -/

/-- The engine answers as its grid does, and every read visits it. -/
theorem shows_cells (h : p.Filled g w) :
    Shows g w (ofProblem p).cells (g.reading : Cells Id)
      (p.rows.size + 1, p.columns.size + 1) true where
  rowCount := by
    intro m _
    rfl
  columnCount := by
    intro m _
    rfl
  rowCount_eq := h.rows_eq
  columnCount_eq := h.columns_eq
  read r c := (visits_grid h).map fun g => g.read r c
  write _ _ _ := visits_pure _

/-- **A query to the engine as a grid** is answered as the computed grid answers it, and visits
the grid exactly if it comes to read a cell. -/
theorem visits_table (hg : p.Filled g w) (layers : List Cells.Layer) (q : Cells.Query) :
    Visits g w (q.reaches layers (p.rows.size + 1, p.columns.size + 1))
      (((ofProblem p).cells.under layers).answer q) ((layered g layers).answer q).run := by
  have h := (shows_cells hg).under layers
  rw [Bool.true_and] at h
  have hrows : (layered g layers).rowCount = pure _ := h.rowCount_eq
  have hcolumns : (layered g layers).columnCount = pure _ := h.columnCount_eq
  cases q with
  | rowCount =>
    unfold Cells.answer
    rw [hrows]
    exact h.rowCount.bind (visits_pure _)
  | columnCount =>
    unfold Cells.answer
    rw [hcolumns]
    exact h.columnCount.bind (visits_pure _)
  | shape =>
    unfold Cells.answer
    rw [hrows, hcolumns]
    exact h.rowCount.bind (h.columnCount.bind (visits_pure _))
  | read r c => exact (h.read r c).map fun result => Except.ok (Cells.Answer.read result)
  | value r c => exact (h.read r c).map fun result => result.map Cells.Answer.value
  | write r c x => exact (h.write r c x).map fun result => Except.ok (Cells.Answer.written result)
  | assign r c x =>
    exact (h.write r c x).map fun result => result.map fun _ => Cells.Answer.assigned
  | dump =>
    have hpos : Cells.inside (Cells.shapeUnder layers (p.rows.size + 1, p.columns.size + 1)) 0 0
        = true := by
      rw [Cells.inside_shapeUnder_zero]
      rfl
    exact (h.visits_dump hpos).map fun result => result.map Cells.Answer.dump

end Engine

end CommonSubsequence
