/-
  CommonSubsequence.Proofs.Nesting — engines over the common subsequences of other engines.

  An engine whose walk reaches the edge is a source that works once: the first time it reports its
  grid and its walk, and then it has both stored.  Two of them under a third one answer every
  session as one engine over the two selected sequences, and the third one sends the same records.

  Main results:
    * `Nest.session_follows` — sessions over sources that work once.
    * `nested_session` — sessions over the common subsequences of strings.
-/
import CommonSubsequence.Proofs.Distance
import CommonSubsequence.Proofs.Openings
import CommonSubsequence.Proofs.Sessions

namespace CommonSubsequence

/-! ## §1. Engines as sources. -/

/-- An engine over sequences that are simply there, and whose walk finds a path. -/
def Opening.ofEngine {α β : Type} {p : Problem α β} {g : Grid} {w : Int32} {path : Path}
    (h : p.Filled g w) (hwalk : (p.backtrack g).path = .ok path) :
    Opening (Memo Unit Unit) α where
  source := (Engine.ofProblem p).source
  elements := path.through p.rows
  fresh := .fresh () ()
  spent := ⟨(), (), some g, some path⟩
  log := .own (.gridComputed g.rows g.columns w) :: Engine.walkLog p g
  run_fresh := by
    have hrun := Engine.run_common h (Memo.faithful_fresh p g)
    rw [hwalk] at hrun
    exact hrun
  run_spent := by
    have hspent : Memo.Faithful p g ⟨(), (), some g, some path⟩ :=
      ⟨Or.inr rfl, fun _ hpath => ⟨rfl, hwalk.trans (congrArg Except.ok (Option.some.inj hpath))⟩⟩
    have hrun := Engine.run_common h hspent
    rw [hwalk] at hrun
    exact hrun

/-- Such an engine reports one grid and one path. -/
theorem Opening.countP_log {α β : Type} {p : Problem α β} {g : Grid} {w : Int32} {path : Path}
    (h : p.Filled g w) (hwalk : (p.backtrack g).path = .ok path) :
    (ofEngine h hwalk).log.countP (·.record.reportsGrid) = 1
      ∧ (ofEngine h hwalk).log.countP (·.record.reportsPath) = 1 := by
  have hgrid : (Engine.walkLog p g).countP (·.record.reportsGrid) = 0 := by
    refine List.countP_eq_zero.2 fun e he => ?_
    rw [Engine.reportsGrid_walkLog he]
    exact Bool.false_ne_true
  have hpath : (Engine.walkLog p g).countP (·.record.reportsPath) = 1 := by
    unfold Engine.walkLog Trail.records
    rw [Trail.halt_of_path_ok hwalk, List.map_append, List.countP_append, List.countP_map,
      List.countP_map]
    show List.countP (fun _ => false) _ + 1 = 1
    rw [List.countP_false]
    rfl
  refine ⟨?_, ?_⟩
  · show List.countP _ (_ :: Engine.walkLog p g) = 1
    rw [List.countP_cons, hgrid]
    rfl
  · show List.countP _ (_ :: Engine.walkLog p g) = 1
    rw [List.countP_cons, hpath]
    rfl

/-! ## §2. Sessions. -/

namespace Nest

variable {ρ γ α β : Type} {N : Nest ρ γ α β} {H : List Entry} {m : Memo ρ γ}

open Engine in
/-- **Sessions over sources that work once.**  The answers are those over the opened sequences, and
so are, query by query, the records of the engine itself. -/
theorem session_follows (h : N.Account H m) (qs : List (Query α β)) :
    let run := N.engine.session qs m
    let run' := (ofProblem N.problem).session qs m.plain
    run.1.map Reply.answer = run'.1.map Reply.answer
      ∧ run.1.map (fun r => Entry.spoken r.log) = run'.1.map Reply.log
      ∧ N.Account (H ++ transcript run.1) run.2 := by
  -- the account of the history so far is what one query hands on to the next
  induction qs generalizing H m with
  | nil =>
    refine ⟨rfl, rfl, ?_⟩
    show N.Account (H ++ []) m
    rw [List.append_nil]
    exact h
  | cons q qs ih =>
    obtain ⟨hanswer, hstate, hspoken, haccount⟩ := N.rel_answer q H m h
    obtain ⟨hanswers, hrecords, hend⟩ := ih haccount
    rw [hstate] at hanswers hrecords
    intro run run'
    refine ⟨?_, ?_, ?_⟩
    · show _ :: _ = _ :: _
      rw [hanswers]
      exact congrArg (· :: _) hanswer
    · show _ :: _ = _ :: _
      rw [hrecords]
      exact congrArg (· :: _) hspoken
    · show N.Account (H ++ (_ ++ transcript _)) _
      rw [← List.append_assoc]
      exact hend

end Nest

namespace Engine

variable {α β : Type}

theorem transcript_eq_flatten (replies : List (Reply α β)) :
    transcript replies = (replies.map Reply.log).flatten :=
  List.flatMap_def ..

theorem spoken_transcript (replies : List (Reply α β)) :
    Entry.spoken (transcript replies) = (replies.map fun r => Entry.spoken r.log).flatten :=
  List.filter_flatMap.trans (List.flatMap_def ..)

end Engine

/-! ## §3. Strings. -/

/-- The engine over two strings finds a path, and selects the common subsequence with it. -/
theorem exists_path_ofStrings {a b : String} (hf : Grid.Fits (a.length + 1) (b.length + 1)) :
    ∃ g w path s, (Problem.ofStrings a b).Filled g w
      ∧ ((Problem.ofStrings a b).backtrack g).path = .ok path
      ∧ path.through (Problem.ofStrings a b).rows = Indexed.ofString s
      ∧ commonSubsequence a b = .ok s ∧ s.length ≤ a.length ∧ s.length ≤ b.length := by
  obtain ⟨g, w, h⟩ := Problem.exists_filled (Problem.fits_ofStrings hf)
  have hwalk := (Problem.lawful_ofStrings a b).path_eq (Problem.fits_ofStrings hf)
  unfold Problem.path at hwalk
  rw [h.fill] at hwalk
  have hlength := length_chosen_le a.toList b.toList
  rw [String.length_toList, String.length_toList] at hlength
  refine ⟨g, w, _, String.ofList (chosen a.toList b.toList), h, hwalk, ?_,
    commonSubsequence_eq hf, ?_, ?_⟩
  · rw [Indexed.ofString_eq, String.toList_ofList, Problem.ofStrings_eq]
    exact through_pairs a.toList b.toList
  · rw [String.length_ofList]
    exact hlength.1
  · rw [String.length_ofList]
    exact hlength.2

/-- Beginnings of the sides of two grids that fit make a grid that fits. -/
theorem Grid.Fits.of_le {r c r' c' k k' : Nat} (h : Grid.Fits r c) (h' : Grid.Fits r' c')
    (hr : k ≤ r) (hc : k ≤ c) (hr' : k' ≤ r') (hc' : k' ≤ c') : Grid.Fits k k' := by
  rcases Nat.le_total k k' with hle | hle
  · exact h'.mono (Nat.le_trans hle hr') hc'
  · exact h.mono hr (Nat.le_trans hle hc)

/-- **Engines nested in engines.**  An engine over the common subsequences of two pairs of strings
answers every session as the engine over the two subsequences, and reports the same.  Each inner
engine reports at most one grid and one path, and has reported both when the outer one reports its
grid. -/
theorem nested_session {a b c d : String} (hab : Grid.Fits (a.length + 1) (b.length + 1))
    (hcd : Grid.Fits (c.length + 1) (d.length + 1)) :
    ∃ s t, commonSubsequence a b = .ok s ∧ commonSubsequence c d = .ok t ∧
      ∀ qs : List (Engine.Query Char Char),
        let first := Engine.ofProblem (.ofStrings a b)
        let second := Engine.ofProblem (.ofStrings c d)
        let outer := Engine.nested first second fun x y => x == y
        let run := (outer.session qs (.fresh (.fresh () ()) (.fresh () ()))).1
        let run' := ((Engine.ofProblem (.ofStrings s t)).session qs (.fresh () ())).1
        run.map Engine.Reply.answer = run'.map Engine.Reply.answer
        ∧ run.map (fun r => Entry.spoken r.log) = run'.map Engine.Reply.log
        ∧ (∀ axis, (Entry.heard axis (Engine.transcript run)).countP (·.record.reportsGrid) ≤ 1
          ∧ (Entry.heard axis (Engine.transcript run)).countP (·.record.reportsPath) ≤ 1)
        ∧ (Entry.spoken (Engine.transcript run)).countP (·.record.reportsGrid) ≤ 1
        ∧ ∀ pre e post, Engine.transcript run = pre ++ e :: post → e.sender = [] →
          e.record.reportsGrid = true → ∀ axis,
            (Entry.heard axis pre).countP (·.record.reportsGrid) = 1
            ∧ (Entry.heard axis pre).countP (·.record.reportsPath) = 1 := by
  obtain ⟨g, w, path, s, hfilled, hwalk, hselected, hs, hsa, hsb⟩ := exists_path_ofStrings hab
  obtain ⟨g', w', path', t, hfilled', hwalk', hselected', ht, htc, htd⟩ :=
    exists_path_ofStrings hcd
  let N : Nest (Memo Unit Unit) (Memo Unit Unit) Char Char :=
    ⟨.ofEngine hfilled hwalk, .ofEngine hfilled' hwalk', fun x y => x == y⟩
  have hproblem : N.problem = .ofStrings s t := by
    show (⟨path.through _, path'.through _, _⟩ : Problem Char Char) = _
    rw [hselected, hselected']
    rfl
  have hlog : ∀ axis, (N.log axis).countP (·.record.reportsGrid) = 1
      ∧ (N.log axis).countP (·.record.reportsPath) = 1 := by
    intro axis
    cases axis with
    | rows => exact Opening.countP_log hfilled hwalk
    | columns => exact Opening.countP_log hfilled' hwalk'
  refine ⟨s, t, hs, ht, ?_⟩
  intro qs first second outer run run'
  obtain ⟨hanswers, hrecords, haccount⟩ := N.session_follows N.account_fresh qs
  rw [hproblem] at hanswers hrecords
  refine ⟨hanswers, hrecords, ?_, ?_, ?_⟩
  · intro axis
    rcases haccount.heard axis with hheard | hheard
    · rw [show Entry.heard axis (Engine.transcript run) = [] from hheard]
      exact ⟨Nat.zero_le 1, Nat.zero_le 1⟩
    · rw [show Entry.heard axis (Engine.transcript run) = N.log axis from hheard]
      exact ⟨Nat.le_of_eq (hlog axis).1, Nat.le_of_eq (hlog axis).2⟩
  · have houter : (Problem.ofStrings s t).Fits := by
      refine Problem.fits_ofStrings (hab.of_le hcd ?_ ?_ ?_ ?_) <;> omega
    rw [Engine.spoken_transcript, show run.map (fun r => Entry.spoken r.log) = _ from hrecords,
      ← Engine.transcript_eq_flatten]
    exact Engine.countP_transcript_fresh houter qs
  · intro pre e post hsplit hown hgrid axis
    rw [haccount.prepared pre e post hsplit hown hgrid axis]
    exact hlog axis

/-- The second engine works at the first query, the first one at the second. -/
theorem nested_session_letters :
    let first := Engine.ofProblem (.ofStrings "ABCB" "BDCAB")
    let second := Engine.ofProblem (.ofStrings "XBAB" "BXB")
    let outer := Engine.nested first second fun x y => x == y
    let run := (outer.session [.columns .size, .length]
      (.fresh (.fresh () ()) (.fresh () ()))).1
    Grid.Fits ("ABCB".length + 1) ("BDCAB".length + 1)
      ∧ Grid.Fits ("XBAB".length + 1) ("BXB".length + 1)
      ∧ run.map Engine.Reply.answer = [.ok (.columns (.number 2)), .ok (.number 1)]
      ∧ run.map (fun r => Entry.spoken r.log) = [[], [.own (.gridComputed 4 3 1)]]
      ∧ ∀ axis, (Entry.heard axis (Engine.transcript run)).countP (·.record.reportsGrid) ≤ 1 := by
  intro first second outer run
  have hfirst : Grid.Fits ("ABCB".length + 1) ("BDCAB".length + 1) := by decide
  have hsecond : Grid.Fits ("XBAB".length + 1) ("BXB".length + 1) := by decide
  obtain ⟨s, t, hs, ht, hsession⟩ := nested_session hfirst hsecond
  have hs' : chosen ['A', 'B', 'C', 'B'] ['B', 'D', 'C', 'A', 'B'] = ['B', 'C', 'B'] := by cbv
  have ht' : chosen ['X', 'B', 'A', 'B'] ['B', 'X', 'B'] = ['X', 'B'] := by cbv
  obtain rfl : s = "BCB" := Except.ok.inj (hs.symm.trans (commonSubsequence_of_chosen hfirst hs'))
  obtain rfl : t = "XB" := Except.ok.inj (ht.symm.trans (commonSubsequence_of_chosen hsecond ht'))
  have hstrings : Problem.ofStrings "BCB" "XB" = .ofLists ['B', 'C', 'B'] ['X', 'B'] :=
    Problem.ofStrings_eq _ _
  obtain ⟨hanswers, hrecords, hheard, _⟩ := hsession [.columns .size, .length]
  refine ⟨hfirst, hsecond, hanswers.trans ?_, hrecords.trans ?_, fun axis => (hheard axis).1⟩
  · rw [hstrings]
    cbv
  · rw [hstrings]
    cbv

end CommonSubsequence
