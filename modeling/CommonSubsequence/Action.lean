/-
  CommonSubsequence.Action — work that may be abandoned, that remembers and that reports.

  An action starts from a state and has an outcome: an answer or the fault it was abandoned with,
  the state it leaves, and the records it sent.  An abandoned action keeps what it had stored and
  sent up to then.  The laws of monads hold, so actions can be reasoned about by rearranging them.
-/
import CommonSubsequence.Record

namespace CommonSubsequence

/-! ## §1. Outcomes and actions. -/

/-- What an action leads to. -/
structure Outcome (σ α : Type) where
  /-- The answer, or the fault that the action was abandoned with. -/
  answer : Except Fault α
  /-- The state left behind. -/
  state : σ
  /-- The records sent, in order. -/
  log : List Entry

/-- Work on a state of type `σ` with an answer of type `α`. -/
def Action (σ α : Type) : Type :=
  σ → Outcome σ α

namespace Action

variable {σ τ α β γ : Type}

/-- Carry an action out. -/
def run (a : Action σ α) (s : σ) : Outcome σ α := a s

/-- Go on with `f` after `a`, unless `a` was abandoned. -/
def andThen (a : Action σ α) (f : α → Action σ β) : Action σ β := fun s =>
  let first := a s
  match first.answer with
  | .error e => ⟨.error e, first.state, first.log⟩
  | .ok x =>
    let second := f x first.state
    ⟨second.answer, second.state, first.log ++ second.log⟩

instance : Monad (Action σ) where
  pure x := fun s => ⟨.ok x, s, []⟩
  bind := andThen

/-! ## §2. Single steps. -/

/-- The state. -/
def get : Action σ σ := fun s => ⟨.ok s, s, []⟩

/-- Change the state. -/
def modify (f : σ → σ) : Action σ Unit := fun s => ⟨.ok (), f s, []⟩

/-- Send records of one's own. -/
def send (rs : List Record) : Action σ Unit := fun s => ⟨.ok (), s, rs.map .own⟩

/-- Give up with a fault. -/
def abandon (f : Fault) : Action σ α := fun s => ⟨.error f, s, []⟩

/-- Take over a result, or give up with its fault. -/
def ofExcept : Except Fault α → Action σ α
  | .ok x => pure x
  | .error f => abandon f

/-- Do the work of the engine along an axis, whose state is part of this one. -/
def along (axis : Axis) (part : σ → τ) (restore : τ → σ → σ) (a : Action τ α) : Action σ α :=
  fun s =>
    let o := a (part s)
    ⟨o.answer, restore o.state s, o.log.map (Entry.along axis)⟩

/-! ## §3. Running single steps. -/

@[simp] theorem run_pure (x : α) (s : σ) : (pure x : Action σ α).run s = ⟨.ok x, s, []⟩ := rfl

/-- What comes second starts from the state that the first leaves, and is left out after a fault. -/
theorem run_bind (a : Action σ α) (f : α → Action σ β) (s : σ) :
    (a >>= f).run s =
      match (a.run s).answer with
      | .error e => ⟨.error e, (a.run s).state, (a.run s).log⟩
      | .ok x =>
        ⟨((f x).run (a.run s).state).answer, ((f x).run (a.run s).state).state,
          (a.run s).log ++ ((f x).run (a.run s).state).log⟩ := rfl

/-- After an answer the work goes on in the state left behind. -/
theorem run_bind_of_ok {a : Action σ α} {f : α → Action σ β} {s s' : σ} {x : α}
    {l : List Entry} (h : a.run s = ⟨.ok x, s', l⟩) :
    (a >>= f).run s =
      ⟨((f x).run s').answer, ((f x).run s').state, l ++ ((f x).run s').log⟩ := by
  rw [run_bind, h]

/-- After a fault the rest of the work is left out. -/
theorem run_bind_of_error {a : Action σ α} {f : α → Action σ β} {s s' : σ} {e : Fault}
    {l : List Entry} (h : a.run s = ⟨.error e, s', l⟩) :
    (a >>= f).run s = ⟨.error e, s', l⟩ := by
  rw [run_bind, h]

/-- Work that leaves the state alone and reports nothing only changes the answer. -/
theorem run_bind_of_silent {a : Action σ α} {f : α → Action σ β} {h : α → Except Fault β}
    {s s' : σ} {r : Except Fault α} {l : List Entry} (ha : a.run s = ⟨r, s', l⟩)
    (hf : ∀ x, (f x).run s' = ⟨h x, s', []⟩) : (a >>= f).run s = ⟨r.bind h, s', l⟩ := by
  cases r with
  | error e => exact run_bind_of_error ha
  | ok x =>
    rw [run_bind_of_ok ha, hf x, List.append_nil]
    rfl

/-- To make something else of the answer changes neither the state nor the records. -/
theorem run_bind_pure {a : Action σ α} {s s' : σ} {r : Except Fault α} {l : List Entry}
    (ha : a.run s = ⟨r, s', l⟩) (f : α → β) :
    (a >>= fun x => pure (f x)).run s = ⟨r.map f, s', l⟩ := by
  rw [run_bind_of_silent ha (h := fun x => .ok (f x)) (fun x => rfl)]
  cases r <;> rfl

@[simp] theorem run_get (s : σ) : (get : Action σ σ).run s = ⟨.ok s, s, []⟩ := rfl

@[simp] theorem run_modify (f : σ → σ) (s : σ) : (modify f).run s = ⟨.ok (), f s, []⟩ := rfl

@[simp] theorem run_send (rs : List Record) (s : σ) :
    (send rs).run s = ⟨.ok (), s, rs.map .own⟩ := rfl

@[simp] theorem run_abandon (f : Fault) (s : σ) :
    (abandon f : Action σ α).run s = ⟨.error f, s, []⟩ := rfl

@[simp] theorem run_ofExcept (r : Except Fault α) (s : σ) :
    (ofExcept r : Action σ α).run s = ⟨r, s, []⟩ := by
  cases r <;> rfl

/-- Work along an axis only concerns its part of the state. -/
theorem run_along (axis : Axis) {part : σ → τ} (restore : τ → σ → σ) {a : Action τ α} {s : σ}
    {r : Except Fault α} {t : τ} {l : List Entry} (h : a.run (part s) = ⟨r, t, l⟩) :
    (along axis part restore a).run s = ⟨r, restore t s, l.map (Entry.along axis)⟩ := by
  show (⟨(a.run (part s)).answer, restore (a.run (part s)).state s,
    (a.run (part s)).log.map (Entry.along axis)⟩ : Outcome σ α) = _
  rw [h]

/-- Take over a result that depends on the answer. -/
theorem run_bind_ofExcept {a : Action σ α} {s s' : σ} {r : Except Fault α} {l : List Entry}
    (ha : a.run s = ⟨r, s', l⟩) (h : α → Except Fault β) (f : β → γ) :
    (a >>= fun x => ofExcept (h x) >>= fun y => pure (f y)).run s
      = ⟨r.bind fun x => (h x).map f, s', l⟩ :=
  run_bind_of_silent ha fun x => run_bind_pure (run_ofExcept (h x) s') f

/-- Two actions with the same outcome from every state are the same. -/
theorem ext {a b : Action σ α} (h : ∀ s, a.run s = b.run s) : a = b :=
  funext h

/-! ## §4. The laws of monads. -/

instance : LawfulMonad (Action σ) := LawfulMonad.mk' (Action σ)
  (by
    intro α a
    refine Action.ext fun s => ?_
    show (a >>= fun x => pure x).run s = a.run s
    rw [run_bind]
    rcases h : a.run s with ⟨_ | _, s', l⟩ <;> simp)
  (by intro α β x f; rfl)
  (by
    intro α β γ a f g
    refine Action.ext fun s => ?_
    rw [run_bind, run_bind, run_bind]
    rcases h : a.run s with ⟨_ | x, s', l⟩
    · rfl
    · simp only [run_bind]
      rcases h' : (f x).run s' with ⟨_ | y, s'', l'⟩ <;> simp [List.append_assoc])

end Action

end CommonSubsequence
