/-
  CommonSubsequence.Proofs.Foreign — paths read through rows that they were not found in.

  A path selects elements from whatever row sequence it is read through, and the selection has the
  size of the path.  Through rows that end too soon some of it cannot be read, and reading in order
  stops there.  Nothing is lost by that: along a path the rows ascend, so behind a row that is
  missing every row is missing.

  That the rows ascend is a fact about walks, whatever the sequences and the grid are like.  An
  engine hands out no other paths: all that it does leaves its stored path alone, or stores one
  that a walk has found (`Action.Maintains`).  Nothing is asked of its sources for this.

  Main results:
    * `Pair.Ascending.lt_countP_iff` — the pairs in early rows come first.
    * `Path.items_through_of_ascending` — what is read of a path through foreign rows.
    * `Engine.Finds.walked` — the paths that an engine hands out.
    * `through_foreign_rows` — engines, their paths and foreign rows.
-/
import CommonSubsequence.Engine.Session
import CommonSubsequence.Proofs.Holes
import CommonSubsequence.Proofs.Maintaining

namespace CommonSubsequence

universe u v

/-! ## §1. Early rows. -/

/-- Along an ascending list of pairs those in the first `n` rows come first. -/
theorem Pair.Ascending.lt_countP_iff {ps : List Pair} (h : Ascending ps) {i : Nat} {q : Pair}
    (hq : ps[i]? = some q) (n : Nat) : i < ps.countP (·.row < n) ↔ q.row < n := by
  induction ps generalizing i with
  | nil => cases hq
  | cons p ps ih =>
    obtain ⟨hlater, hps⟩ := List.pairwise_cons.1 h
    by_cases hp : p.row < n
    · rw [List.countP_cons_of_pos (by simpa using hp)]
      cases i with
      | zero =>
        obtain rfl : p = q := by simpa using hq
        exact iff_of_true (Nat.succ_pos _) hp
      | succ i =>
        rw [Nat.add_lt_add_iff_right]
        exact ih hps hq
    · -- the first row is too late, and every other one is later still
      have hlate : ∀ p' ∈ p :: ps, ¬ p'.row < n := by
        intro p' hp'
        rcases List.mem_cons.1 hp' with rfl | hmem
        · exact hp
        · exact fun hlt => hp (Nat.lt_trans (hlater p' hmem).1 hlt)
      have hzero : (p :: ps).countP (·.row < n) = 0 := by
        rw [List.countP_eq_zero]
        intro p' hp'
        simpa using hlate p' hp'
      rw [hzero]
      exact iff_of_false (Nat.not_lt_zero i) (hlate q (List.mem_of_getElem? hq))

/-- A list whose places are those of a list of finds has found something at each of them, and is the
list of all that is found. -/
theorem eq_filterMap_of_getElem? {α : Type u} {β : Type v} {f : α → Option β} {l : List α}
    {xs : List β} (h : ∀ i : Nat, xs[i]? = l[i]?.bind f) : xs = l.filterMap f := by
  induction l generalizing xs with
  | nil =>
    rw [List.filterMap_nil]
    exact List.eq_nil_of_length_eq_zero (by simpa using h 0)
  | cons a l ih =>
    have hhead : xs[0]? = f a := h 0
    have htail : ∀ i : Nat, xs[i + 1]? = l[i]?.bind f := fun i => h (i + 1)
    cases xs with
    | nil =>
      -- nothing stands at the first place, and so nothing at any later one
      rw [List.filterMap_cons_none hhead.symm]
      exact ih htail
    | cons x xs =>
      rw [List.filterMap_cons_some hhead.symm, ← ih htail]

/-! ## §2. Sequences that can be read up to some position. -/

/-- If what can be read are the positions below some `k`, reading in order finds all of it. -/
theorem Indexed.getElem?_items_of_isSome_iff {α : Type u} {s : Indexed α} {k : Nat}
    (hk : k ≤ s.size) (h : ∀ i, (s.get? i).isSome ↔ i < k) (i : Nat) :
    s.items[i]? = s.get? i := by
  apply Option.ext
  intro x
  show (s.itemsFrom s.size 0)[i]? = some x ↔ _
  rw [getElem?_itemsFrom, Nat.zero_add]
  constructor
  · intro hfound
    exact hfound.2.2
  · intro hx
    have hi : i < k := (h i).1 (by rw [hx]; rfl)
    refine ⟨Nat.lt_of_lt_of_le hi hk, ?_, hx⟩
    intro j hj
    rw [Nat.zero_add]
    exact (h j).2 (Nat.lt_trans hj hi)

namespace Path

variable {δ : Type u} {path : Path} {rows : Indexed δ}

/-- The number of pairs in the first `n` rows. -/
def reach (path : Path) (n : Nat) : Nat :=
  path.pairs.countP (·.row < n)

theorem reach_le (path : Path) (n : Nat) : path.reach n ≤ path.pairs.length :=
  List.countP_le_length

/-- Through lawful rows a path can be read as far as it stays in them. -/
theorem isSome_get?_through_iff (h : Pair.Ascending path.pairs) (hrows : rows.Lawful) (i : Nat) :
    ((path.through rows).get? i).isSome ↔ i < path.reach rows.size := by
  rw [get?_through]
  cases hq : path.pairs[i]? with
  | none =>
    have hi : path.pairs.length ≤ i := List.getElem?_eq_none_iff.1 hq
    have hreach := path.reach_le rows.size
    exact iff_of_false Bool.false_ne_true (by omega)
  | some q =>
    show (rows.get? q.row).isSome ↔ _
    rw [hrows q.row]
    exact (h.lt_countP_iff hq rows.size).symm

/-- Reading in order finds at each place what the row of its pair holds. -/
theorem getElem?_items_through (h : Pair.Ascending path.pairs) (hrows : rows.Lawful) (i : Nat) :
    (path.through rows).items[i]? = path.pairs[i]?.bind fun q => rows.get? q.row := by
  rw [← get?_through]
  exact Indexed.getElem?_items_of_isSome_iff (path.reach_le rows.size)
    (isSome_get?_through_iff h hrows) i

/-- Reading stops where the rows end, and what is read is all that there is. -/
theorem items_through_of_ascending (h : Pair.Ascending path.pairs) (hrows : rows.Lawful) :
    (path.through rows).items = path.pairs.filterMap fun q => rows.get? q.row :=
  eq_filterMap_of_getElem? (getElem?_items_through h hrows)

theorem length_items_through (h : Pair.Ascending path.pairs) (hrows : rows.Lawful) :
    (path.through rows).items.length = path.reach rows.size := by
  -- the length is the least place that is empty
  have hplace : ∀ i, i < (path.through rows).items.length ↔ i < path.reach rows.size := by
    intro i
    rw [← isSome_get?_through_iff h hrows, get?_through, ← getElem?_items_through h hrows]
    simp
  have hleft := hplace (path.through rows).items.length
  have hright := hplace (path.reach rows.size)
  omega

/-- A path that a walk has found, through whatever grid of whatever problem on such elements. -/
def Walked (α β : Type) (path : Path) : Prop :=
  ∃ (p : Problem α β) (g : Grid), (p.backtrack g).path = .ok path

/-- Along a path that a walk has found the pairs ascend. -/
theorem Walked.ascending {α β : Type} (h : path.Walked α β) : Pair.Ascending path.pairs := by
  obtain ⟨p, g, hwalk⟩ := h
  rw [Trail.path_of_halt_none (Trail.halt_of_path_ok hwalk), Except.ok.injEq] at hwalk
  subst hwalk
  exact (p.isChain_walk g p.rows.size p.columns.size).ascending

end Path

/-! ## §3. What an engine hands out. -/

/-- The memo stores no path but one that a walk has found. -/
def Memo.Walked {ρ γ : Type} (α β : Type) (m : Memo ρ γ) : Prop :=
  ∀ path, m.path = some path → path.Walked α β

namespace Engine

open CommonSubsequence.Action

variable {ρ γ α β : Type} (e : Engine ρ γ α β)

/-- Whatever the source of the rows does when it is opened, no path of this engine is stored. -/
theorem maintains_openRows : Maintains (Memo.Walked α β) (fun _ => True) e.openRows :=
  fun _ hm => ⟨hm, fun _ _ => trivial⟩

theorem maintains_openColumns : Maintains (Memo.Walked α β) (fun _ => True) e.openColumns :=
  fun _ hm => ⟨hm, fun _ _ => trivial⟩

theorem maintains_openProblem : Maintains (Memo.Walked α β) (fun _ => True) e.openProblem :=
  e.maintains_openRows.bind fun _ _ => e.maintains_openColumns.bind fun _ _ =>
    maintains_pure trivial

/-- Computing the grid stores a grid and no path. -/
theorem maintains_grid : Maintains (Memo.Walked α β) (fun _ => True) e.grid := by
  refine maintains_get.bind fun m _ => ?_
  cases m.grid with
  | some g => exact maintains_pure trivial
  | none =>
    have hcompute : Maintains (Memo.Walked α β) (fun _ => True) e.computeGrid :=
      e.maintains_openProblem.bind fun p _ => (maintains_ofExcept p.fill).bind fun g _ =>
        (maintains_ofExcept (p.corner g)).bind fun _ _ => (maintains_send _).bind fun _ _ =>
          maintains_pure trivial
    refine hcompute.bind fun g _ => ?_
    -- to store the grid is not to store a path
    have hstore : Maintains (Memo.Walked (ρ := ρ) (γ := γ) α β) (fun _ => True)
        (modify fun m => { m with grid := some g }) := maintains_modify fun _ hm => hm
    exact hstore.bind fun _ _ => maintains_pure trivial

/-- A walk of its own finds a path or is abandoned. -/
theorem maintains_backtrack : Maintains (Memo.Walked α β) (Path.Walked α β) e.backtrack := by
  refine e.maintains_grid.bind fun g _ => e.maintains_openProblem.bind fun p _ => ?_
  refine (maintains_send _).bind fun _ _ => ?_
  exact (maintains_ofExcept _).mono fun path hwalk => ⟨p, g, hwalk⟩

/-- A path that is handed out was stored, and then a walk had found it, or is found now. -/
theorem maintains_path : Maintains (Memo.Walked α β) (Path.Walked α β) e.path := by
  refine maintains_get.bind fun m hm => ?_
  cases hpath : m.path with
  | some path => exact maintains_pure (hm path hpath)
  | none =>
    refine e.maintains_backtrack.bind fun path hwalked => ?_
    have hstore : Maintains (Memo.Walked (ρ := ρ) (γ := γ) α β) (fun _ => True)
        (modify fun m => { m with path := some path }) := by
      refine maintains_modify fun m _ => ?_
      intro path' hpath'
      obtain rfl : path = path' := Option.some.inj hpath'
      exact hwalked
    exact hstore.bind fun _ _ => maintains_pure hwalked

/-- Handing out the selected elements stores no other path than the one they are selected by. -/
theorem maintains_common : Maintains (Memo.Walked α β) (fun _ => True) e.common :=
  e.maintains_path.bind fun _ _ => e.maintains_openRows.bind fun _ _ => maintains_pure trivial

/-- So does every access to the engine as a grid. -/
theorem grids_maintaining : (maintaining (Memo.Walked α β)).Grids e.cells e.cells where
  rowCount := e.maintains_openRows.bind fun _ _ => maintains_pure trivial
  columnCount := e.maintains_openColumns.bind fun _ _ => maintains_pure trivial
  read _ _ := e.maintains_grid.bind fun _ _ => maintains_pure trivial
  write _ _ _ := maintains_pure trivial

/-- **One query.** -/
theorem maintains_answer (q : Query α β) :
    Maintains (Memo.Walked α β) (fun _ => True) (e.answer q) := by
  cases q with
  | cellCount =>
    have hcount : Maintains (Memo.Walked α β) (fun _ => True) e.cellCount :=
      e.maintains_openProblem.bind fun _ _ => maintains_pure trivial
    exact hcount.bind fun _ _ => maintains_pure trivial
  | length =>
    have hlength : Maintains (Memo.Walked α β) (fun _ => True) e.length :=
      e.maintains_grid.bind fun g _ => e.maintains_openProblem.taken (·.corner g) _
    exact hlength.bind fun _ _ => maintains_pure trivial
  | backtrack => exact e.maintains_backtrack.bind fun _ _ => maintains_pure trivial
  | pathIsBacktrack =>
    exact e.maintains_backtrack.bind fun _ _ => e.maintains_path.bind fun _ _ =>
      maintains_pure trivial
  | table layers q =>
    have htable : Maintains (Memo.Walked α β) (fun _ => True) ((e.cells.under layers).answer q) :=
      (e.grids_maintaining.under layers).answer q
    exact htable.taken id _
  | grid layers q => exact e.maintains_grid.taken _ _
  | gridText => exact e.maintains_grid.bind fun _ _ => maintains_pure trivial
  | rows q => exact e.maintains_openRows.taken _ _
  | columns q => exact e.maintains_openColumns.taken _ _
  | pairs => exact e.maintains_path.bind fun _ _ => maintains_pure trivial
  | path q => exact e.maintains_path.taken _ _
  | common q => exact e.maintains_common.taken _ _

/-- **A run of queries.** -/
theorem walked_session (qs : List (Query α β)) {m : Memo ρ γ} (hm : m.Walked α β) :
    (e.session qs m).2.Walked α β := by
  induction qs generalizing m with
  | nil => exact hm
  | cons q qs ih => exact ih (e.maintains_answer q m hm).1

/-- At some point of a session of an engine that has not computed anything, the path is what the
engine has as its path, or what a walk of its own finds. -/
def Finds (path : Path) : Prop :=
  ∃ (r : ρ) (c : γ) (qs : List (Query α β)),
    let m := (e.session qs (.fresh r c)).2
    (e.path.run m).answer = .ok path ∨ (e.backtrack.run m).answer = .ok path

/-- **The paths that an engine hands out are those of walks**, whatever its sources are like. -/
theorem Finds.walked {e : Engine ρ γ α β} {path : Path} (h : e.Finds path) :
    path.Walked α β := by
  obtain ⟨r, c, qs, hpath⟩ := h
  have hfresh : (Memo.fresh r c).Walked α β := fun _ hnone => by cases hnone
  have hm := e.walked_session qs hfresh
  rcases hpath with hpath | hback
  · exact (e.maintains_path _ hm).2 path hpath
  · exact (e.maintains_backtrack _ hm).2 path hback

end Engine

/-! ## §4. Foreign rows. -/

/-- **Paths through foreign rows.**  Whatever two sequences an engine found a path in, and at
whatever point of a session, through the rows of any lawful sequence the path can be read exactly as
far as it stays in them.  Reading in order, which stops at the first position that cannot be read,
finds the elements of all rows that are there, and a text is made of all of them.  The size is the
length of the path all the same, and every checked read behind the rows names that size, below it as
well as past it. -/
theorem through_foreign_rows {ρ γ α β : Type} {e : Engine ρ γ α β} {path : Path}
    (h : e.Finds path) {δ : Type u} {rows : Indexed δ} (hrows : rows.Lawful) :
    let s := path.through rows
    let k := path.pairs.countP (·.row < rows.size)
    let found := path.pairs.filterMap fun q => rows.get? q.row
    (∀ i, (s.get? i).isSome ↔ i < k)
      ∧ s.items = found ∧ found.length = k
      ∧ (∀ i q, path.pairs[i]? = some q → (i < k ↔ q.row < rows.size)
        ∧ found[i]? = rows.get? q.row)
      ∧ ((Cursor.start s).drain s .front).1 = found
      ∧ (∀ render, s.text render = String.join (found.map render))
      ∧ s.size = path.pairs.length
      ∧ ∀ i, k ≤ i → s.read i = .error (.indexOutOfRange i path.pairs.length) := by
  intro s k found
  have hasc : Pair.Ascending path.pairs := h.walked.ascending
  have hitems : s.items = found := Path.items_through_of_ascending hasc hrows
  have hsome : ∀ i, (s.get? i).isSome ↔ i < k := Path.isSome_get?_through_iff hasc hrows
  refine ⟨hsome, hitems, ?_, ?_, ?_, ?_, rfl, ?_⟩
  · rw [← hitems]
    exact Path.length_items_through hasc hrows
  · intro i q hq
    refine ⟨hasc.lt_countP_iff hq rows.size, ?_⟩
    rw [← hitems, Path.getElem?_items_through hasc hrows, hq]
    rfl
  · exact (Cursor.drain_start s).trans hitems
  · intro render
    show String.join (s.items.map render) = _
    rw [hitems]
  · intro i hi
    refine Indexed.read_eq_error_iff.2 ⟨?_, rfl⟩
    rw [← Option.not_isSome_iff_eq_none, hsome i]
    exact Nat.not_lt.2 hi

/-- The path of two lists of characters through a list of two numbers: the second of its two pairs
is in a row that the list does not have. -/
theorem through_foreign_rows_short :
    let e := Engine.ofProblem
      ⟨.ofList ['A', 'C', 'A', 'D', 'B'], .ofList ['C', 'B', 'D', 'A'], fun a b => decide (a = b)⟩
    let path : Path := ⟨[⟨1, 0⟩, ⟨2, 3⟩]⟩
    let rows := Indexed.ofList [10, 20]
    let s := path.through rows
    e.Finds path ∧ rows.Lawful ∧ s.size = 2 ∧ s.items = [20] ∧ s.text toString = "20"
      ∧ s.read 1 = .error (.indexOutOfRange 1 2) := by
  intro e path rows s
  have hwalk : (e.backtrack.run (.fresh () ())).answer = .ok path := by cbv
  have hfinds : e.Finds path := ⟨(), (), [], Or.inr hwalk⟩
  have hrows : rows.Lawful := Indexed.lawful_ofList [10, 20]
  obtain ⟨_, hitems, _, _, _, htext, hsize, hread⟩ := through_foreign_rows hfinds hrows
  exact ⟨hfinds, hrows, hsize, hitems, htext _, hread 1 (by decide)⟩

end CommonSubsequence
