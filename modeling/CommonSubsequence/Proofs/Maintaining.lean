/-
  CommonSubsequence.Proofs.Maintaining — conditions that work leaves as they were.

  A condition on states is maintained by an action that leaves such a state whenever it starts from
  one, also if it is abandoned.  What the answer is like may depend on the state, so a condition on
  answers goes with it, and later work may rely on it.  Single steps are put together by
  `Maintains.bind`; programs for any monad follow their single steps (`maintaining`).

  Main results:
    * `Action.Maintains.bind` — one piece of work after the other.
    * `Action.maintaining` — programs.
-/
import CommonSubsequence.Action
import CommonSubsequence.Proofs.Correspondence

namespace CommonSubsequence

namespace Action

variable {σ X Y Z : Type} {I : σ → Prop} {P : X → Prop} {Q : Y → Prop}

/-! ## §1. Work. -/

/-- From a state as said the action leaves such a state, and its answer, if it has one, is as said
as well. -/
def Maintains (I : σ → Prop) (P : X → Prop) (a : Action σ X) : Prop :=
  ∀ s, I s → I (a.run s).state ∧ ∀ x, (a.run s).answer = .ok x → P x

/-- Less may be said of the answer. -/
theorem Maintains.mono {P' : X → Prop} {a : Action σ X} (ha : Maintains I P a)
    (hP : ∀ x, P x → P' x) : Maintains I P' a := by
  intro s hs
  obtain ⟨hstate, hanswer⟩ := ha s hs
  exact ⟨hstate, fun x hx => hP x (hanswer x hx)⟩

theorem maintains_pure {x : X} (hx : P x) : Maintains I P (pure x) := by
  intro s hs
  refine ⟨hs, ?_⟩
  intro y hy
  cases hy
  exact hx

/-- **Work after work.**  What is said of the first answer may be relied on by what comes next. -/
theorem Maintains.bind {a : Action σ X} {f : X → Action σ Y} (ha : Maintains I P a)
    (hf : ∀ x, P x → Maintains I Q (f x)) : Maintains I Q (a >>= f) := by
  intro s hs
  obtain ⟨hstate, hanswer⟩ := ha s hs
  rcases hrun : a.run s with ⟨r, s', l⟩
  rw [hrun] at hstate hanswer
  cases r with
  | error e =>
    rw [run_bind_of_error hrun]
    refine ⟨hstate, ?_⟩
    intro y hy
    cases hy
  | ok x =>
    rw [run_bind_of_ok hrun]
    exact hf x (hanswer x rfl) s' hstate

/-! ## §2. Single steps. -/

/-- The state that is looked up is as said. -/
theorem maintains_get : Maintains I I (get : Action σ σ) := by
  intro s hs
  refine ⟨hs, ?_⟩
  intro x hx
  cases hx
  exact hs

/-- A change of the state has to be one that keeps the condition. -/
theorem maintains_modify {f : σ → σ} (hf : ∀ s, I s → I (f s)) :
    Maintains I (fun _ => True) (modify f) :=
  fun s hs => ⟨hf s hs, fun _ _ => trivial⟩

theorem maintains_send (rs : List Record) : Maintains I (fun _ => True) (send rs) :=
  fun _ hs => ⟨hs, fun _ _ => trivial⟩

/-- A result that is taken over leaves the state alone, and is the answer. -/
theorem maintains_ofExcept (r : Except Fault X) :
    Maintains I (fun x => r = .ok x) (ofExcept r) := by
  intro s hs
  rw [run_ofExcept]
  exact ⟨hs, fun x hx => hx⟩

/-- A result that depends on the answer may be taken over. -/
theorem Maintains.taken {a : Action σ X} (ha : Maintains I P a) (r : X → Except Fault Y)
    (f : Y → Z) :
    Maintains I (fun _ => True) (a >>= fun x => ofExcept (r x) >>= fun y => pure (f y)) :=
  ha.bind fun x _ => (maintains_ofExcept (r x)).bind fun _ _ => maintains_pure trivial

/-! ## §3. Programs. -/

/-- Programs maintain what their single steps maintain. -/
def maintaining (I : σ → Prop) : Correspondence (Action σ) (Action σ) where
  rel a _ := Maintains I (fun _ => True) a
  rel_pure _ := maintains_pure trivial
  rel_bind ha hf := ha.bind fun x _ => hf x

end Action

end CommonSubsequence
