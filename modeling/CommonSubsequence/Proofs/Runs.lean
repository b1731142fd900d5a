/-
  CommonSubsequence.Proofs.Runs — what an engine over plain sequences answers.

  An engine fills the grid on first need and answers from it.  Over sequences that are simply
  there, a fresh engine therefore answers what the problem says without any memo.

  Main results:
    * `Engine.answer_length_fresh` — the length, read off the corner of the grid.
    * `Engine.answer_length` — the length of any problem whose grid can be allocated.
    * `Engine.answer_backtrack_fresh` — the path of the walk through the grid.
-/
import CommonSubsequence.Engine.Basic
import CommonSubsequence.Proofs.Filling

namespace CommonSubsequence.Engine

variable {α β : Type} {p : Problem α β} {g : Grid} {w : Int32}

/-- A fresh engine computes its grid once, reports it and keeps it. -/
theorem run_grid_fresh (hfill : p.fill = .ok g) (hcorner : p.corner g = .ok w) :
    (ofProblem p).grid.run (.fresh () ()) =
      ⟨.ok g, ⟨(), (), some g, none⟩, [.own (.gridComputed g.rows g.columns w)]⟩ :=
  run_grid_of_missing p rfl hfill hcorner

/-- A fresh engine counts the bottom right cell. -/
theorem answer_length_fresh (hfill : p.fill = .ok g) (hcorner : p.corner g = .ok w) :
    ((ofProblem p).length.run (.fresh () ())).answer = .ok (Problem.count w) := by
  unfold length
  rw [Action.run_bind_of_ok (run_grid_fresh hfill hcorner),
    Action.run_bind_of_ok (run_openProblem_ofProblem p _), hcorner]
  rfl

theorem answer_length (hf : p.Fits) :
    ((ofProblem p).length.run (.fresh () ())).answer = p.length := by
  obtain ⟨g, w, h⟩ := Problem.exists_filled hf
  rw [answer_length_fresh h.fill h.corner, Problem.length_of_corner h.fill h.corner]

/-- A walk that a fresh engine is asked for is the walk through its grid. -/
theorem answer_backtrack_fresh (hfill : p.fill = .ok g) (hcorner : p.corner g = .ok w) :
    ((ofProblem p).backtrack.run (.fresh () ())).answer = (p.backtrack g).path := by
  unfold backtrack
  rw [Action.run_bind_of_ok (run_grid_fresh hfill hcorner),
    Action.run_bind_of_ok (run_openProblem_ofProblem p _)]
  show ((Action.send (p.backtrack g).records >>= fun _ =>
    Action.ofExcept (p.backtrack g).path).run _).answer = _
  rw [Action.run_bind_of_ok (Action.run_send _ _), Action.run_ofExcept]

end CommonSubsequence.Engine
