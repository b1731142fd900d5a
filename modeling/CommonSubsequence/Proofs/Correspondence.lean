/-
  CommonSubsequence.Proofs.Correspondence — one query to a grid, run in two monads.

  What is asked of a grid from outside is written once for every monad.  A relation between the
  actions of two monads that `pure` and `bind` respect is therefore respected by whatever is asked:
  if two grids correspond access by access, so do they behind any layers, and so do all answers.

  Main results:
    * `Correspondence.Grids.under` — layers keep grids in correspondence.
    * `Correspondence.Grids.answer` — corresponding grids answer correspondingly.
-/
import CommonSubsequence.Grid.Query

namespace CommonSubsequence

/-! ## §1. Relations that programs respect. -/

/-- A relation between the actions of two monads, respected by `pure` and `bind`. -/
structure Correspondence (m n : Type → Type) [Monad m] [Monad n] where
  rel : {α : Type} → m α → n α → Prop
  rel_pure : ∀ {α : Type} (x : α), rel (pure x : m α) (pure x : n α)
  rel_bind : ∀ {α β : Type} {a : m α} {b : n α} {f : α → m β} {h : α → n β},
    rel a b → (∀ x, rel (f x) (h x)) → rel (a >>= f) (b >>= h)

namespace Correspondence

variable {m n : Type → Type} [Monad m] [Monad n] {R : Correspondence m n}

/-- The relation of actions whose results may be faults as values: up to the first fault, the
programs are related step by step. -/
def excepts (R : Correspondence m n) : Correspondence (ExceptT Fault m) (ExceptT Fault n) where
  rel a b := R.rel a.run b.run
  rel_pure x := R.rel_pure (Except.ok x)
  rel_bind {α β a b f h} hab hfh := by
    refine R.rel_bind hab ?_
    intro result
    cases result with
    | ok x => exact hfh x
    | error e => exact R.rel_pure (Except.error e)

/-! ## §2. Grids in correspondence. -/

/-- Every access to the two grids is related. -/
structure Grids (R : Correspondence m n) (v : Cells m) (w : Cells n) : Prop where
  rowCount : R.rel v.rowCount w.rowCount
  columnCount : R.rel v.columnCount w.columnCount
  read : ∀ r c, R.rel (v.read r c) (w.read r c)
  write : ∀ r c x, R.rel (v.write r c x) (w.write r c x)

namespace Grids

variable {v : Cells m} {w : Cells n}

/-- A checked access behind a transposed layer: the shape first, then the access or the fault. -/
theorem rel_checked {α : Type} (h : R.Grids v w) {a : m (Except Fault α)} {b : n (Except Fault α)}
    (hab : R.rel a b) (r c : Nat) :
    R.rel
      (do
        let rows ← v.columnCount
        let columns ← v.rowCount
        match Cells.bounds rows columns r c with
        | .ok () => a
        | .error f => pure (.error f))
      (do
        let rows ← w.columnCount
        let columns ← w.rowCount
        match Cells.bounds rows columns r c with
        | .ok () => b
        | .error f => pure (.error f)) := by
  refine R.rel_bind h.columnCount fun rows => R.rel_bind h.rowCount fun columns => ?_
  cases Cells.bounds rows columns r c with
  | ok _ => exact hab
  | error f => exact R.rel_pure _

/-- Behind a transposed layer the accesses stay related. -/
theorem transpose (h : R.Grids v w) : R.Grids v.transpose w.transpose where
  rowCount := h.columnCount
  columnCount := h.rowCount
  read r c := h.rel_checked (h.read c r) r c
  write r c x := h.rel_checked (h.write c r x) r c

/-- One layer keeps grids in correspondence. -/
theorem around (h : R.Grids v w) (l : Cells.Layer) : R.Grids (l.around v) (l.around w) := by
  cases l with
  | transposed => exact h.transpose
  | shared => exact ⟨h.rowCount, h.columnCount, h.read, fun _ _ _ => R.rel_pure _⟩
  | exclusive => exact h

/-- **Layers keep grids in correspondence.** -/
theorem under (h : R.Grids v w) (layers : List Cells.Layer) :
    R.Grids (v.under layers) (w.under layers) := by
  induction layers generalizing v w with
  | nil => exact h
  | cons l ls ih =>
    rw [Cells.under_cons, Cells.under_cons]
    exact ih (h.around l)

end Grids

/-! ## §3. Answers. -/

/-- Related actions are related when they are done one after the other. -/
theorem rel_collect {α : Type} {f : Nat → m α} {h : Nat → n α} (hfh : ∀ i, R.rel (f i) (h i))
    (k i : Nat) : R.rel (Cells.collect f k i) (Cells.collect h k i) := by
  induction k generalizing i with
  | zero => exact R.rel_pure []
  | succ k ih =>
    unfold Cells.collect
    refine R.rel_bind (hfh i) fun x => ?_
    exact R.rel_bind (ih (i + 1)) fun xs => R.rel_pure (x :: xs)

variable {v : Cells m} {w : Cells n}

/-- Grids in correspondence are read out in correspondence. -/
theorem Grids.dump (h : R.Grids v w) : R.rel v.dump w.dump := by
  unfold Cells.dump
  refine R.rel_bind h.rowCount fun rows => R.rel_bind h.columnCount fun columns => ?_
  have hcell : ∀ r c, R.excepts.rel (ExceptT.mk (v.read r c)) (ExceptT.mk (w.read r c)) := h.read
  have hrow : ∀ r, R.excepts.rel
      (Cells.collect (fun c => ExceptT.mk (v.read r c)) columns 0)
      (Cells.collect (fun c => ExceptT.mk (w.read r c)) columns 0) := by
    intro r
    exact rel_collect (hcell r) columns 0
  exact rel_collect hrow rows 0

/-- **Corresponding grids answer correspondingly.** -/
theorem Grids.answer (h : R.Grids v w) (q : Cells.Query) : R.rel (v.answer q) (w.answer q) := by
  cases q with
  | rowCount => exact R.rel_bind h.rowCount fun _ => R.rel_pure _
  | columnCount => exact R.rel_bind h.columnCount fun _ => R.rel_pure _
  | shape =>
    exact R.rel_bind h.rowCount fun rows => R.rel_bind h.columnCount fun columns => R.rel_pure _
  | read r c => exact R.rel_bind (h.read r c) fun _ => R.rel_pure _
  | value r c => exact R.rel_bind (h.read r c) fun _ => R.rel_pure _
  | write r c x => exact R.rel_bind (h.write r c x) fun _ => R.rel_pure _
  | assign r c x => exact R.rel_bind (h.write r c x) fun _ => R.rel_pure _
  | dump => exact R.rel_bind h.dump fun _ => R.rel_pure _

end Correspondence

end CommonSubsequence
