/-
  CommonSubsequence.Proofs.Contract — the promise of a sequence, and engines that keep it.

  A lawful sequence can be read exactly below its size.  From this everything follows that readers
  rely on (`Indexed.Contract`): what checked reads answer, and what reading forwards and backwards
  finds.

  A path is a list, so it is always lawful.  The elements that it selects take their number from the
  path and themselves from the rows; they are lawful because a walk reads the row element of every
  pair that it records, which is so even where the sequences have holes.  Over lawful sequences no
  walk is cut short.  So engines may stand on engines, and on references to them, to any depth
  (`Tower`): whatever they were asked before, their paths and selected elements keep the promise.

  Main results:
    * `Indexed.Lawful.contract` — what follows from being lawful.
    * `Problem.lawful_through` — the elements that a completed walk selects.
    * `Tower.exists_opening` — engines on engines, by induction on their construction.
    * `contract_closed` — paths, selected elements and engines.
-/
import CommonSubsequence.Proofs.Holes
import CommonSubsequence.Proofs.Towers

namespace CommonSubsequence

/-! ## §1. The promise of a sequence. -/

namespace Indexed

universe u
variable {α : Type u} {s : Indexed α}

/-- What readers of a sequence rely on. -/
structure Contract (s : Indexed α) : Prop where
  lawful : s.Lawful
  /-- A checked read succeeds exactly below the size. -/
  read_ok_iff : ∀ i, (∃ x, s.read i = .ok x) ↔ i < s.size
  /-- Any other one names the position and the size. -/
  read_fault : ∀ i, s.size ≤ i → s.read i = .error (.indexOutOfRange i s.size)
  /-- Reading in order finds as many elements as there are positions. -/
  length_items : s.items.length = s.size
  /-- Reading in order finds each element at its position. -/
  getElem?_items : ∀ i, s.items[i]? = s.get? i
  /-- A cursor that is drained from the front finds the elements in order. -/
  drain_front : ((Cursor.start s).drain s .front).1 = s.items
  /-- A cursor that is drained from the back finds them in reverse. -/
  drain_back : ((Cursor.start s).drain s .back).1 = s.items.reverse

/-- Checked reads of a lawful sequence succeed exactly below its size. -/
theorem Lawful.read_ok_iff (h : s.Lawful) (i : Nat) : (∃ x, s.read i = .ok x) ↔ i < s.size := by
  rw [← h i, Option.isSome_iff_exists]
  exact exists_congr fun x => read_eq_ok_iff

theorem Lawful.read_fault (h : s.Lawful) {i : Nat} (hi : s.size ≤ i) :
    s.read i = .error (.indexOutOfRange i s.size) :=
  read_eq_error_iff.2 ⟨h.get?_eq_none hi, rfl⟩

/-- Read from the back, a lawful sequence is found in reverse. -/
theorem Lawful.drain_back (h : s.Lawful) :
    ((Cursor.start s).drain s .back).1 = s.items.reverse :=
  Cursor.drain_start_back fun i hi => (h i).2 hi

/-- **A lawful sequence keeps the whole promise.** -/
theorem Lawful.contract (h : s.Lawful) : s.Contract where
  lawful := h
  read_ok_iff := h.read_ok_iff
  read_fault _ := h.read_fault
  length_items := h.length_items
  getElem?_items := h.getElem?_items
  drain_front := Cursor.drain_start s
  drain_back := h.drain_back

/-- The sequence behind a reference, which hands on its size and its elements. -/
def reference (s : Indexed α) : Indexed α where
  size := s.size
  get? i := s.get? i

@[simp] theorem reference_eq (s : Indexed α) : s.reference = s := rfl

end Indexed

/-! ## §2. Completed walks. -/

namespace Problem

variable {α β : Type} {p : Problem α β} {g : Grid} {path : Path}

/-- **What a completed walk selects is lawful**, whatever the sequences are like: the row element
of each recorded pair was read when the pair was recorded. -/
theorem lawful_through (h : (p.backtrack g).path = .ok path) : (path.through p.rows).Lawful := by
  have hpath : (⟨(p.backtrack g).pairs⟩ : Path) = path := by
    rw [Trail.path_of_halt_none (Trail.halt_of_path_ok h), Except.ok.injEq] at h
    exact h
  refine Path.lawful_through ?_
  intro q hq
  rw [← hpath] at hq
  obtain ⟨x, hx, _⟩ := (p.isChain_walk g p.rows.size p.columns.size).matching q hq
  rw [Option.mem_def.1 hx]
  rfl

/-- Over lawful sequences every walk is completed. -/
theorem Lawful.exists_walk (hl : p.Lawful) (hf : p.Fits) :
    ∃ g w path, p.Filled g w ∧ (p.backtrack g).path = .ok path := by
  obtain ⟨g, hfill, hg⟩ := hl.fill_spec hf
  have hwalk := path_trail p.verdicts p.rows.size p.columns.size
  rw [← hl.backtrack_eq hf hg] at hwalk
  exact ⟨g, _, _, ⟨hfill, corner_of_holds hg, hg.rows_eq, hg.columns_eq⟩, hwalk⟩

end Problem

/-! ## §3. Engines on engines. -/

/-- The grid of the engine can be allocated, for the sequences that its sources open to. -/
def Engine.FitsFrom {ρ γ α β : Type} (e : Engine ρ γ α β) (r : ρ) (c : γ) : Prop :=
  ∀ s s', (Action.run e.rows r).answer = .ok s → (Action.run e.columns c).answer = .ok s' →
    Problem.Fits ⟨s, s', e.agree⟩

/-- A source of references to what a source hands out. -/
def Source.reference {σ α : Type} (a : Source σ α) : Source σ α :=
  (do let s ← a; pure s.reference : Action σ (Indexed α))

/-- Sources built from lawful sequences by references and by engines, each engine with a memo that
some session left.  The path of an engine and the view of its selected elements are sequences that
are simply there. -/
inductive Tower : {σ α : Type} → Source σ α → σ → Prop where
  /-- A lawful sequence. -/
  | given {α : Type} {s : Indexed α} (h : s.Lawful) : Tower (.plain s) ()
  /-- A reference to what a tower hands out. -/
  | reference {σ α : Type} {a : Source σ α} {s : σ} (h : Tower a s) : Tower a.reference s
  /-- An engine over two towers. -/
  | engine {ρ γ α β : Type} {e : Engine ρ γ α β} {r : ρ} {c : γ} (rows : Tower e.rows r)
    (columns : Tower e.columns c) (fits : e.FitsFrom r c) (qs : List (Engine.Query α β)) :
    Tower e.source (e.session qs (.fresh r c)).2

theorem Source.reference_eq {σ α : Type} (a : Source σ α) : a.reference = a := by
  unfold reference
  simp only [Indexed.reference_eq]
  exact bind_pure (show Action σ (Indexed α) from a)

namespace Nest

variable {ρ γ α β : Type} {N : Nest ρ γ α β} {m : Memo ρ γ} {g : Grid} {w : Int32} {path : Path}

/-- An engine whose walk is completed answers with the path and with the elements it selects, and
both keep the promise. -/
theorem Started.answers (h : N.problem.Filled g w) (hm : N.Started g m)
    (hwalk : (N.problem.backtrack g).path = .ok path) :
    (N.engine.path.run m).answer = .ok path
      ∧ (N.engine.common.run m).answer = .ok (path.through N.problem.rows)
      ∧ path.indexed.Contract ∧ (path.through N.problem.rows).Contract := by
  obtain ⟨m', l, hpath, _⟩ := run_path h hwalk hm
  obtain ⟨l', hcommon⟩ := run_common h hwalk hm
  rw [hpath, hcommon]
  exact ⟨rfl, rfl, path.lawful_indexed.contract, (Problem.lawful_through hwalk).contract⟩

end Nest

namespace Tower

variable {ρ γ α β : Type} {e : Engine ρ γ α β} {r : ρ} {c : γ}

/-- Two sources that work once and hand out lawful sequences make a nest of the engine. -/
theorem exists_nest
    (hrows : ∃ O : Opening ρ α, O.source = e.rows ∧ O.fresh = r ∧ O.elements.Lawful)
    (hcolumns : ∃ O : Opening γ β, O.source = e.columns ∧ O.fresh = c ∧ O.elements.Lawful)
    (hfits : e.FitsFrom r c) :
    ∃ N : Nest ρ γ α β, N.engine = e ∧ N.rows.fresh = r ∧ N.columns.fresh = c
      ∧ N.problem.Lawful ∧ N.problem.Fits := by
  obtain ⟨R, hR, rfl, hlawful⟩ := hrows
  obtain ⟨C, hC, rfl, hlawful'⟩ := hcolumns
  obtain ⟨rows, columns, agree⟩ := e
  dsimp only at hR hC
  subst hR hC
  refine ⟨⟨R, C, agree⟩, rfl, rfl, rfl, ⟨hlawful, hlawful'⟩, ?_⟩
  exact hfits _ _ (congrArg Outcome.answer R.run_fresh) (congrArg Outcome.answer C.run_fresh)

/-- **A tower works once and hands out a lawful sequence.** -/
theorem exists_opening {σ : Type} {a : Source σ α} {s : σ} (h : Tower a s) :
    ∃ O : Opening σ α, O.source = a ∧ O.fresh = s ∧ O.elements.Lawful := by
  induction h with
  | given h => exact ⟨.plain _, rfl, rfl, h⟩
  | reference _ ih =>
    rw [Source.reference_eq]
    exact ih
  | engine _ _ hfits qs ihrows ihcolumns =>
    obtain ⟨N, rfl, rfl, rfl, hlawful, hfits⟩ := exists_nest ihrows ihcolumns hfits
    obtain ⟨g, w, path, hfilled, hwalk⟩ := hlawful.exists_walk hfits
    -- a session leaves a memo from which the engine works once more, or has done so
    have hm : N.Started g (N.engine.session qs N.fresh).2 := (N.started_fresh g).session hfilled qs
    exact ⟨.ofNest N hfilled hwalk hm, rfl, rfl, Problem.lawful_through hwalk⟩

end Tower

/-! ## §4. Paths, selected elements and engines. -/

/-- **The promise of a sequence is kept by engines.**  An engine over towers finds its path at any
point of a session; path and selected elements keep the whole promise, references to them do, and
all of them, and the engine itself, are towers again.  Over any other sequences the same is true of
the elements that are selected by a walk that is completed. -/
theorem contract_closed :
    (∀ {ρ γ α β : Type} {e : Engine ρ γ α β} {r : ρ} {c : γ}, Tower e.rows r → Tower e.columns c →
      e.FitsFrom r c → ∀ qs : List (Engine.Query α β),
        let m := (e.session qs (.fresh r c)).2
        ∃ rows path, (Action.run e.rows r).answer = .ok rows
          ∧ (e.backtrack.run m).answer = .ok path ∧ (e.path.run m).answer = .ok path
          ∧ (e.common.run m).answer = .ok (path.through rows)
          ∧ path.indexed.Contract ∧ (path.through rows).Contract
          ∧ path.indexed.reference.Contract ∧ (path.through rows).reference.Contract
          ∧ Tower (.plain path.indexed) () ∧ Tower (.plain (path.through rows)) ()
          ∧ Tower e.source m)
    ∧ (∀ {σ α : Type} {a : Source σ α} {st : σ}, Tower a st →
      ∃ s, (Action.run a st).answer = .ok s ∧ s.Contract)
    ∧ ∀ {ρ γ α β : Type} (N : Nest ρ γ α β), N.problem.Fits → ∀ qs : List (Engine.Query α β),
      let m := (N.engine.session qs N.fresh).2
      ∀ path, (N.engine.backtrack.run m).answer = .ok path →
        (N.engine.common.run m).answer = .ok (path.through N.problem.rows)
          ∧ (path.through N.problem.rows).Contract ∧ path.indexed.Contract := by
  refine ⟨?_, ?_, ?_⟩
  · intro ρ γ α β e r c hrows hcolumns hfits qs m
    have htower : Tower e.source m := .engine hrows hcolumns hfits qs
    obtain ⟨N, rfl, rfl, rfl, hlawful, hfits⟩ :=
      Tower.exists_nest hrows.exists_opening hcolumns.exists_opening hfits
    obtain ⟨g, w, path, hfilled, hwalk⟩ := hlawful.exists_walk hfits
    have hm : N.Started g m := (N.started_fresh g).session hfilled qs
    have hopened : (Action.run N.engine.rows N.rows.fresh).answer = .ok N.problem.rows :=
      congrArg Outcome.answer N.rows.run_fresh
    have hback : (N.engine.backtrack.run m).answer = .ok path :=
      (hm.answer_backtrack hfilled).trans hwalk
    obtain ⟨hpath, hcommon, hcontract, hcontract'⟩ := hm.answers hfilled hwalk
    exact ⟨N.problem.rows, path, hopened, hback, hpath, hcommon, hcontract, hcontract', hcontract,
      hcontract', .given hcontract.lawful, .given hcontract'.lawful, htower⟩
  · intro σ α a st h
    obtain ⟨O, rfl, rfl, hlawful⟩ := h.exists_opening
    exact ⟨O.elements, congrArg Outcome.answer O.run_fresh, hlawful.contract⟩
  · intro ρ γ α β N hf qs m path hpath
    obtain ⟨g, w, hfilled⟩ := Problem.exists_filled hf
    have hm : N.Started g m := (N.started_fresh g).session hfilled qs
    rw [hm.answer_backtrack hfilled] at hpath
    obtain ⟨_, hcommon, hcontract, hcontract'⟩ := hm.answers hfilled hpath
    exact ⟨hcommon, hcontract', hcontract⟩

/-- An engine on a reference to an engine, and a walk that does not come to the hole. -/
theorem contract_closed_reference :
    let inner := Engine.ofProblem (.ofStrings "ABCB" "BDCAB")
    let outer : Engine (Memo Unit Unit) Unit Char Char :=
      ⟨inner.source.reference, .plain (Indexed.ofString "XBA"), fun x y => x == y⟩
    let m := (outer.session [.length] (.fresh (.fresh () ()) ())).2
    let N := Nest.ofProblem
      ⟨Indexed.ofSlots 2 #[none, some 1], Indexed.ofSlots 1 #[some 1], Agreement.exact (α := Int)⟩
    let m' := (N.engine.session [.length] N.fresh).2
    Tower outer.rows (.fresh () ()) ∧ Tower outer.columns () ∧ outer.FitsFrom (.fresh () ()) ()
      ∧ (∃ rows path, (outer.backtrack.run m).answer = .ok path
        ∧ (outer.common.run m).answer = .ok (path.through rows)
        ∧ path.indexed.Contract ∧ (path.through rows).Contract)
      ∧ (∃ s, (Action.run outer.rows (.fresh () ())).answer = .ok s ∧ s.Contract)
      ∧ N.problem.Fits ∧ ¬ N.problem.Lawful
      ∧ (N.engine.backtrack.run m').answer = .ok ⟨[⟨1, 0⟩]⟩
      ∧ (Path.through ⟨[⟨1, 0⟩]⟩ N.problem.rows).Contract := by
  intro inner outer m N m'
  have hinner : Tower inner.source (.fresh () ()) := by
    refine Tower.engine (e := inner) (.given ?_) (.given ?_) ?_ []
    · exact Indexed.lawful_ofString "ABCB"
    · exact Indexed.lawful_ofString "BDCAB"
    · intro s s' hs hs'
      cases hs
      cases hs'
      decide
  have hstrings : Problem.ofStrings "ABCB" "BDCAB"
      = .ofLists ['A', 'B', 'C', 'B'] ['B', 'D', 'C', 'A', 'B'] := Problem.ofStrings_eq _ _
  have hsize : (Action.run outer.rows (.fresh () ())).answer.map Indexed.size = .ok 3 := by
    show (Action.run (Engine.ofProblem (.ofStrings "ABCB" "BDCAB")).source.reference
      (.fresh () ())).answer.map Indexed.size = _
    rw [hstrings]
    cbv
  have hfits : outer.FitsFrom (.fresh () ()) () := by
    intro s s' hs hs'
    cases hs'
    rw [hs] at hsize
    have hs3 : s.size = 3 := Except.ok.inj hsize
    show Grid.Fits (s.size + 1) ((Indexed.ofString "XBA").size + 1)
    rw [hs3]
    decide
  have hcolumns : Tower outer.columns () := .given (Indexed.lawful_ofString "XBA")
  have hholes : N.problem.Fits := by decide
  have hlawful : ¬ N.problem.Lawful := by
    intro h
    have hread := (h.1 0).2 (by decide)
    cases hread
  have hwalk : (N.engine.backtrack.run m').answer = .ok ⟨[⟨1, 0⟩]⟩ := by
    have hfilled : N.problem.Filled (.zeros 3 2) 0 := ⟨rfl, rfl, rfl, rfl⟩
    have hdiagonal : N.problem.turn (.zeros 3 2) 1 0 = .ok .diagonal := rfl
    rw [((N.started_fresh _).session hfilled [.length]).answer_backtrack hfilled]
    show (N.problem.walk (.zeros 3 2) 2 1).path = _
    rw [Problem.walk, hdiagonal]
    dsimp only
    rw [Problem.walk_zero_right]
    rfl
  obtain ⟨rows, path, _, hpath, _, hcommon, hcontract, hcontract', _⟩ :=
    contract_closed.1 (.reference hinner) hcolumns hfits [.length]
  obtain ⟨_, hselected, _⟩ := contract_closed.2.2 N hholes [.length] _ hwalk
  exact ⟨.reference hinner, hcolumns, hfits, ⟨rows, path, hpath, hcommon, hcontract, hcontract'⟩,
    contract_closed.2.1 (.reference hinner), hholes, hlawful, hwalk, hselected⟩

end CommonSubsequence
