/-
  CommonSubsequence.Proofs.Indifference — what an engine does not see of its elements.

  Of two runs, over elements of different kinds and from sources of different kinds, one engine
  cannot be told from the other as long as the sequences have the same sizes, can be read at the
  same positions below them, and have the same verdicts there.  Queries are put to both in step.
  They may ask anything of the sequences themselves and of the selected elements; all other
  answers are the same, fault by fault, and so is every record that the engines send themselves.

  One query on plain sequences is compared through `Engine.run_answer`, which says what it answers,
  stores and reports; sources of any depth follow their plain sequences (`Nest.session_follows`).

  Main results:
    * `Engine.reply_agrees`, `Engine.records_eq` — one query.
    * `Nest.session_indifferent` — sessions over sources that work once.
    * `indifferent_to_elements` — engines, relabelled elements and ways to present a string.
-/
import CommonSubsequence.Alignment.Agreement
import CommonSubsequence.Proofs.Alike
import CommonSubsequence.Proofs.Towers

namespace CommonSubsequence

/-! ## §1. Queries in step. -/

namespace Engine

section

variable {α β α' β' : Type}

/-- Two queries, to engines over elements of any kinds, ask for the same.  What is asked of a
sequence itself or of the selected elements may differ. -/
inductive Query.Like : Query α β → Query α' β' → Prop
  | cellCount : Like .cellCount .cellCount
  | length : Like .length .length
  | backtrack : Like .backtrack .backtrack
  | pathIsBacktrack : Like .pathIsBacktrack .pathIsBacktrack
  | table (layers : List Cells.Layer) (q : Cells.Query) : Like (.table layers q) (.table layers q)
  | grid (layers : List Cells.Layer) (q : Cells.Query) : Like (.grid layers q) (.grid layers q)
  | gridText : Like .gridText .gridText
  | rows (q : Indexed.Query α) (q' : Indexed.Query α') : Like (.rows q) (.rows q')
  | columns (q : Indexed.Query β) (q' : Indexed.Query β') : Like (.columns q) (.columns q')
  | pairs : Like .pairs .pairs
  | path (q : Indexed.Query Pair) : Like (.path q) (.path q)
  | common (q : Indexed.Query α) (q' : Indexed.Query α') : Like (.common q) (.common q')

/-- The query is put to a sequence of elements. -/
def Query.handsOut : Query α β → Bool
  | .rows _ => true
  | .columns _ => true
  | .common _ => true
  | _ => false

/-- Two answers without elements say the same. -/
inductive Answer.Like : Answer α β → Answer α' β' → Prop
  | number (n : Nat) : Like (.number n) (.number n)
  | flag (b : Bool) : Like (.flag b) (.flag b)
  | pairs (p : Path) : Like (.pairs p) (.pairs p)
  | text (s : String) : Like (.text s) (.text s)
  | cells (a : Cells.Answer) : Like (.cells a) (.cells a)
  | path (a : Indexed.Answer Pair) : Like (.path a) (.path a)

/-- Two queries were answered with the same, or abandoned with the same fault. -/
inductive Agrees : Except Fault (Answer α β) → Except Fault (Answer α' β') → Prop
  | fault (f : Fault) : Agrees (.error f) (.error f)
  | answer {a : Answer α β} {a' : Answer α' β'} (h : a.Like a') : Agrees (.ok a) (.ok a')

theorem agrees_map {X : Type} {f : X → Answer α β} {f' : X → Answer α' β'} (r : Except Fault X)
    (h : ∀ x, (f x).Like (f' x)) : Agrees (r.map f) (r.map f') := by
  cases r with
  | error e => exact .fault e
  | ok x => exact .answer (h x)

/-! ## §2. One query. -/

variable {p : Problem α β} {p' : Problem α' β'} {q : Query α β} {q' : Query α' β'} {g : Grid}
  {w : Int32} {m : Memo Unit Unit}

/-- Like queries to like problems need the grid, or neither of them does. -/
theorem needsGrid_eq (h : p.Alike p') (hq : q.Like q') : q.needsGrid p = q'.needsGrid p' := by
  cases hq with
  | table layers q =>
    -- a read at given coordinates needs the grid or not according to the shape
    unfold Query.needsGrid
    rw [h.rows_size, h.columns_size]
  | _ => rfl

theorem walksAnew_eq (hq : q.Like q') : q.walksAnew = q'.walksAnew := by
  cases hq <;> rfl

theorem readsPath_eq (hq : q.Like q') : q.readsPath = q'.readsPath := by
  cases hq <;> rfl

/-- Problems that are alike answer with the same, wherever no elements are handed out. -/
theorem reply_agrees (h : p.Alike p') (hq : q.Like q') (hout : q.handsOut = false) (g : Grid) :
    Agrees (reply p g q) (reply p' g q') := by
  have htrail := h.backtrack_eq g
  cases hq with
  | cellCount =>
    unfold reply
    rw [h.rows_size, h.columns_size]
    exact .answer (.number _)
  | length =>
    unfold reply Problem.corner
    rw [h.rows_size, h.columns_size]
    exact agrees_map _ .number
  | backtrack =>
    unfold reply
    rw [htrail]
    exact agrees_map _ .pairs
  | pathIsBacktrack =>
    unfold reply
    rw [htrail]
    exact agrees_map _ fun _ => .flag _
  | table layers q => exact agrees_map _ .cells
  | grid layers q => exact agrees_map _ .cells
  | gridText => exact .answer (.text _)
  | pairs =>
    unfold reply
    rw [htrail]
    exact agrees_map _ .pairs
  | path q =>
    unfold reply
    rw [htrail]
    cases (p'.backtrack g).path with
    | error f => exact .fault f
    | ok path => exact agrees_map _ .path
  | rows q q' => cases hout
  | columns q q' => cases hout
  | common q q' => cases hout

/-- Like problems are walked through one grid with the same records. -/
theorem walkLog_eq (h : p.Alike p') (g : Grid) : walkLog p g = walkLog p' g := by
  unfold walkLog
  rw [h.backtrack_eq]

/-- Problems that are alike are reported alike. -/
theorem records_eq (h : p.Alike p') (hq : q.Like q') (g : Grid) (w : Int32)
    (m : Memo Unit Unit) : records p g w m q = records p' g w m q' := by
  unfold records walks
  rw [needsGrid_eq h hq, walksAnew_eq hq, readsPath_eq hq, walkLog_eq h, h.backtrack_eq]

/-- Like queries to like problems leave the same memo. -/
theorem after_eq (h : p.Alike p') (hq : q.Like q') (g : Grid) (m : Memo Unit Unit) :
    m.after p g q = m.after p' g q' := by
  unfold Memo.after
  rw [needsGrid_eq h hq, readsPath_eq hq, h.backtrack_eq]

/-! ## §3. Sessions over plain sequences. -/

/-- Sessions in step report the same, query by query, and leave the same behind. -/
theorem session_log_eq (h : p.Alike p') (hp : p.Filled g w) (hp' : p'.Filled g w)
    (hm : m.Faithful p g) (hm' : m.Faithful p' g) {qs : List (Query α β × Query α' β')}
    (hqs : ∀ q ∈ qs, q.1.Like q.2) :
    let run := (ofProblem p).session (qs.map Prod.fst) m
    let run' := (ofProblem p').session (qs.map Prod.snd) m
    run.1.map Reply.log = run'.1.map Reply.log ∧ run.2 = run'.2 := by
  -- one memo serves both runs: a query in step leaves the same memo in each of them
  induction qs generalizing m with
  | nil => exact ⟨rfl, rfl⟩
  | cons q qs ih =>
    have hq := hqs q List.mem_cons_self
    have hafter := after_eq h hq g m
    obtain ⟨hlogs, hmemo⟩ := ih (hm.after q.1) (hafter ▸ hm'.after q.2) fun q' hq' =>
      hqs q' (List.mem_cons_of_mem q hq')
    dsimp only
    rw [List.map_cons, List.map_cons, session_cons, session_cons, run_answer hp hm,
      run_answer hp' hm', ← hafter]
    refine ⟨?_, hmemo⟩
    show records p g w m q.1 :: _ = records p' g w m q.2 :: _
    rw [records_eq h hq, hlogs]

/-- Sessions in step are answered alike, query by query. -/
theorem session_agrees (h : p.Alike p') (hp : p.Filled g w) (hp' : p'.Filled g w)
    (hm : m.Faithful p g) (hm' : m.Faithful p' g) {qs : List (Query α β × Query α' β')}
    (hqs : ∀ q ∈ qs, q.1.Like q.2) {k : Nat} {q : Query α β × Query α' β'}
    (hk : qs[k]? = some q) (hout : q.1.handsOut = false) :
    ∃ a a', (((ofProblem p).session (qs.map Prod.fst) m).1.map Reply.answer)[k]? = some a
      ∧ (((ofProblem p').session (qs.map Prod.snd) m).1.map Reply.answer)[k]? = some a'
      ∧ Agrees a a' := by
  refine ⟨reply p g q.1, reply p' g q.2, ?_, ?_,
    reply_agrees h (hqs q (List.mem_of_getElem? hk)) hout g⟩
  · rw [(session_spec hp hm _).1, List.getElem?_map, List.getElem?_map, hk]
    rfl
  · rw [(session_spec hp' hm' _).1, List.getElem?_map, List.getElem?_map, hk]
    rfl

end

end Engine

/-! ## §4. Sessions over sources that work once. -/

/-- **Two engines over sources of any depth.**  Sessions in step report the same of their own and
are answered alike, and after them both have the same grid and walk alike. -/
theorem Nest.session_indifferent {ρ γ α β ρ' γ' α' β' : Type} {N : Nest ρ γ α β}
    {N' : Nest ρ' γ' α' β'} {g : Grid} {w : Int32} (h : N.problem.Alike N'.problem)
    (hN : N.problem.Filled g w) (hN' : N'.problem.Filled g w)
    {qs : List (Engine.Query α β × Engine.Query α' β')} (hqs : ∀ q ∈ qs, q.1.Like q.2) :
    let run := N.engine.session (qs.map Prod.fst) N.fresh
    let run' := N'.engine.session (qs.map Prod.snd) N'.fresh
    run.1.map (fun r => Entry.spoken r.log) = run'.1.map (fun r => Entry.spoken r.log)
      ∧ (N.engine.grid.run run.2).answer = .ok g ∧ (N'.engine.grid.run run'.2).answer = .ok g
      ∧ (N.engine.backtrack.run run.2).answer = (N'.engine.backtrack.run run'.2).answer
      ∧ ∀ (k : Nat) (q : Engine.Query α β × Engine.Query α' β'), qs[k]? = some q →
        q.1.handsOut = false → ∃ a a', (run.1.map Engine.Reply.answer)[k]? = some a
          ∧ (run'.1.map Engine.Reply.answer)[k]? = some a' ∧ Engine.Agrees a a' := by
  intro run run'
  have hm := Memo.faithful_fresh N.problem g
  have hm' := Memo.faithful_fresh N'.problem g
  obtain ⟨hanswers, hspoken, _⟩ := N.session_follows N.account_fresh (qs.map Prod.fst)
  obtain ⟨hanswers', hspoken', _⟩ := N'.session_follows N'.account_fresh (qs.map Prod.snd)
  have hend := (N.started_fresh g).session hN (qs.map Prod.fst)
  have hend' := (N'.started_fresh g).session hN' (qs.map Prod.snd)
  refine ⟨?_, hend.answer_grid hN, hend'.answer_grid hN', ?_, ?_⟩
  · -- over and back: from the sources to the opened sequences, across, and to the other sources
    calc run.1.map (fun r => Entry.spoken r.log)
        = ((Engine.ofProblem N.problem).session (qs.map Prod.fst) (.fresh () ())).1.map
            Engine.Reply.log := hspoken
      _ = ((Engine.ofProblem N'.problem).session (qs.map Prod.snd) (.fresh () ())).1.map
            Engine.Reply.log := (Engine.session_log_eq h hN hN' hm hm' hqs).1
      _ = run'.1.map (fun r => Entry.spoken r.log) := hspoken'.symm
  · rw [hend.answer_backtrack hN, hend'.answer_backtrack hN', h.backtrack_eq]
  · intro k q hk hout
    show ∃ a a', (run.1.map Engine.Reply.answer)[k]? = some a
      ∧ (run'.1.map Engine.Reply.answer)[k]? = some a' ∧ Engine.Agrees a a'
    rw [show run.1.map Engine.Reply.answer = _ from hanswers,
      show run'.1.map Engine.Reply.answer = _ from hanswers']
    exact Engine.session_agrees h hN hN' hm hm' hqs hk hout

/-! ## §5. Relabelled elements. -/

/-- The sequence with another element in the place of each. -/
def Indexed.map {α α' : Type} (f : α → α') (s : Indexed α) : Indexed α' where
  size := s.size
  get? i := (s.get? i).map f

/-- Labels of elements do not matter as long as the verdicts on them are the same. -/
theorem Problem.alike_map {α β α' β' : Type} {f : α → α'} {k : β → β'} {agree' : α' → β' → Bool}
    (p : Problem α β) (h : ∀ x y, agree' (f x) (k y) = p.agree x y) :
    p.Alike ⟨p.rows.map f, p.columns.map k, agree'⟩ := by
  refine ⟨rfl, rfl, ?_, ?_, ?_⟩
  · intro i _
    exact Option.isSome_map.symm
  · intro j _
    exact Option.isSome_map.symm
  · intro i _ j _
    unfold verdicts Indexed.map
    dsimp only
    cases p.rows.get? i with
    | none => cases p.columns.get? j <;> rfl
    | some x =>
      cases p.columns.get? j with
      | none => rfl
      | some y => exact (h x y).symm

/-- Different labels for different elements keep them apart. -/
theorem Agreement.exact_map {α α' : Type} [DecidableEq α] [DecidableEq α'] {f : α → α'}
    (hf : Function.Injective f) (x y : α) : exact (f x) (f y) = exact x y :=
  decide_eq_decide.2 hf.eq_iff

/-! ## §6. Engines, elements and strings. -/

/-- **An engine sees of its elements only whether they are there and what the verdict on them
is.**  Two engines whose sequences have equal sizes, elements at the same positions and equal
verdicts compute one grid, walk alike, report the same and answer alike, whatever their elements
and sources are.  In particular elements may be relabelled, and a string may be given as the list
of its characters. -/
theorem indifferent_to_elements :
    (∀ {ρ γ α β ρ' γ' α' β' : Type} (N : Nest ρ γ α β) (N' : Nest ρ' γ' α' β'),
      N.problem.Alike N'.problem → N.problem.Fits →
        ∃ g, N.problem.fill = .ok g ∧ N'.problem.fill = .ok g
          ∧ ∀ qs : List (Engine.Query α β × Engine.Query α' β'), (∀ q ∈ qs, q.1.Like q.2) →
            let run := N.engine.session (qs.map Prod.fst) N.fresh
            let run' := N'.engine.session (qs.map Prod.snd) N'.fresh
            run.1.map (fun r => Entry.spoken r.log) = run'.1.map (fun r => Entry.spoken r.log)
            ∧ (N.engine.grid.run run.2).answer = .ok g
            ∧ (N'.engine.grid.run run'.2).answer = .ok g
            ∧ (N.engine.backtrack.run run.2).answer = (N'.engine.backtrack.run run'.2).answer
            ∧ ∀ (k : Nat) (q : Engine.Query α β × Engine.Query α' β'), qs[k]? = some q →
              q.1.handsOut = false → ∃ a a', (run.1.map Engine.Reply.answer)[k]? = some a
                ∧ (run'.1.map Engine.Reply.answer)[k]? = some a' ∧ Engine.Agrees a a')
    ∧ (∀ {α α' : Type} [DecidableEq α] [DecidableEq α'] (f : α → α'), Function.Injective f →
      ∀ rows columns : Indexed α,
        let p : Problem α α := ⟨rows, columns, Agreement.exact⟩
        let p' : Problem α' α' := ⟨rows.map f, columns.map f, Agreement.exact⟩
        p.Fits → p'.fill = p.fill ∧ p'.path = p.path)
    ∧ ∀ {β : Type} (s : String) (other : Indexed β) (agree : Char → β → Bool),
      let p : Problem Char β := ⟨Indexed.ofString s, other, agree⟩
      let p' : Problem Char β := ⟨Indexed.ofList s.toList, other, agree⟩
      p'.fill = p.fill ∧ p'.path = p.path
        ∧ p'.swap.fill = p.swap.fill ∧ p'.swap.path = p.swap.path := by
  refine ⟨?_, ?_, ?_⟩
  · intro ρ γ α β ρ' γ' α' β' N N' h hf
    obtain ⟨g, w, hN⟩ := Problem.exists_filled hf
    have hN' := h.filled hf hN
    exact ⟨g, hN.fill, hN'.fill, fun qs hqs => Nest.session_indifferent h hN hN' hqs⟩
  · intro α α' _ _ f hinj rows columns p p' hf
    have h : p.Alike p' := p.alike_map (Agreement.exact_map hinj)
    exact ⟨(h.fill_eq hf).symm, (h.path_eq hf).symm⟩
  · intro β s other agree p p'
    have hsame : p' = p := by
      show (⟨_, other, agree⟩ : Problem Char β) = ⟨_, other, agree⟩
      rw [Indexed.ofString_eq]
    rw [hsame]
    exact ⟨rfl, rfl, rfl, rfl⟩

/-- The rows are the common subsequence of two strings, found by an engine of its own when they are
opened, or they are numbers that are simply there. -/
theorem indifferent_to_elements_nested :
    ∃ (N : Nest (Memo Unit Unit) Unit Char Char) (N' : Nest Unit Unit Nat Nat),
      N.engine = ⟨(Engine.ofProblem (.ofStrings "ABCB" "BDCAB")).source,
        .plain (Indexed.ofString "XBA"), fun x y => x == y⟩
      ∧ N'.engine = Engine.ofProblem ⟨(Indexed.ofString "BCB").map Char.toNat,
        (Indexed.ofString "XBA").map Char.toNat, Agreement.exact⟩
      ∧ N.problem.Alike N'.problem ∧ N.problem.Fits
      ∧ (let run := N.engine.session [.columns .size, .backtrack] N.fresh
        let run' := N'.engine.session [.columns .isEmpty, .backtrack] N'.fresh
        run.1.map (fun r => Entry.spoken r.log) = run'.1.map (fun r => Entry.spoken r.log)
          ∧ (N.engine.backtrack.run run.2).answer = (N'.engine.backtrack.run run'.2).answer)
      ∧ Function.Injective Char.toNat ∧ (Problem.mk (Indexed.ofString "BCB")
        (Indexed.ofString "XBA") Agreement.exact).Fits
      ∧ N'.problem.path = (Problem.mk (Indexed.ofString "BCB") (Indexed.ofString "XBA")
        Agreement.exact).path := by
  have hinner : Grid.Fits ("ABCB".length + 1) ("BDCAB".length + 1) := by decide
  obtain ⟨g, w, path, s, hfilled, hwalk, hselected, hs, _⟩ := exists_path_ofStrings hinner
  have hchosen : chosen ['A', 'B', 'C', 'B'] ['B', 'D', 'C', 'A', 'B'] = ['B', 'C', 'B'] := by cbv
  obtain rfl : s = "BCB" :=
    Except.ok.inj (hs.symm.trans (commonSubsequence_of_chosen hinner hchosen))
  have hinjective : Function.Injective Char.toNat := fun x y h => Char.toNat_inj.1 h
  let inner : Nest Unit Unit Char Char := .ofProblem (.ofStrings "ABCB" "BDCAB")
  let N : Nest (Memo Unit Unit) Unit Char Char :=
    ⟨.ofNest inner hfilled hwalk (inner.started_fresh g), .plain (Indexed.ofString "XBA"),
      fun x y => x == y⟩
  let p : Problem Char Char := ⟨Indexed.ofString "BCB", Indexed.ofString "XBA", Agreement.exact⟩
  let N' : Nest Unit Unit Nat Nat :=
    .ofProblem ⟨p.rows.map Char.toNat, p.columns.map Char.toNat, Agreement.exact⟩
  have hproblem : N.problem = p := by
    show (⟨path.through (Problem.ofStrings "ABCB" "BDCAB").rows, _, _⟩ : Problem Char Char) = p
    rw [hselected]
    rfl
  have halike : N.problem.Alike N'.problem := by
    rw [hproblem]
    exact p.alike_map (Agreement.exact_map hinjective)
  have hfits : p.Fits := by decide
  have houter : N.problem.Fits := by
    rw [hproblem]
    exact hfits
  obtain ⟨_, _, _, hsession⟩ := indifferent_to_elements.1 N N' halike houter
  obtain ⟨hspoken, _, _, hbacktrack, _⟩ :=
    hsession [(.columns .size, .columns .isEmpty), (.backtrack, .backtrack)] (by
      intro q hq
      rcases List.mem_cons.1 hq with rfl | hq
      · exact .columns _ _
      · rw [List.mem_singleton.1 hq]
        exact .backtrack)
  exact ⟨N, N', rfl, Nest.engine_ofProblem _, halike, houter, ⟨hspoken, hbacktrack⟩, hinjective,
    hfits, (indifferent_to_elements.2.1 Char.toNat hinjective p.rows p.columns hfits).2⟩

end CommonSubsequence
