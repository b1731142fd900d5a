/-
  CommonSubsequence.Indexed.Basic — finite sequences known by their size and by random access.

  `Indexed α` promises nothing about how `size` and `get?` fit together: a sequence may have
  holes below its size and answers past it.  One that keeps the promise is `Lawful`.  Reading in
  order (`items`) stops at the first hole, and nothing at or past the size is ever read.
-/
import CommonSubsequence.Fault

namespace CommonSubsequence

universe u v
variable {α : Type u}

/-! ## §1. Size and access. -/

/-- A sequence of declared size whose elements are looked up by position. -/
structure Indexed (α : Type u) where
  /-- The declared number of elements. -/
  size : Nat
  /-- The element at a position, if it can be read. -/
  get? : Nat → Option α

namespace Indexed

/-- The positions that can be read are exactly those below the size. -/
def Lawful (s : Indexed α) : Prop :=
  ∀ i, (s.get? i).isSome ↔ i < s.size

/-- Whether the declared size is zero. -/
def isEmpty (s : Indexed α) : Bool :=
  s.size == 0

/-- The element at `i`, or the fault that names `i` and the declared size. -/
def read (s : Indexed α) (i : Nat) : Except Fault α :=
  match s.get? i with
  | some x => .ok x
  | none => .error (.indexOutOfRange i s.size)

/-! ## §2. Reading in order. -/

/-- At most `n` elements from position `i` on, up to the first that cannot be read. -/
def itemsFrom (s : Indexed α) : (n i : Nat) → List α
  | 0, _ => []
  | n + 1, i =>
    match s.get? i with
    | none => []
    | some x => x :: s.itemsFrom n (i + 1)

/-- The elements in order, up to the first hole or to the declared size.  The bytes that a list
collected in memory takes are not counted; only the cells of a grid have to fit into memory. -/
def items (s : Indexed α) : List α :=
  s.itemsFrom s.size 0

/-- The texts of the elements, one after the other with nothing between them. -/
def text (s : Indexed α) (render : α → String) : String :=
  String.join (s.items.map render)

/-! ## §3. Sequences in memory. -/

/-- The elements of an array. -/
def ofArray (xs : Array α) : Indexed α where
  size := xs.size
  get? i := xs[i]?

/-- The elements of a list. -/
def ofList (xs : List α) : Indexed α :=
  ofArray xs.toArray

/-- The sequence without its first `n` positions. -/
def drop (s : Indexed α) (n : Nat) : Indexed α where
  size := s.size - n
  get? i := s.get? (n + i)

/-- A sequence that declares a size of its own over slots some of which may be vacant. -/
def ofSlots (size : Nat) (slots : Array (Option α)) : Indexed α where
  size := size
  get? i := slots[i]?.join

/-! ## §4. First facts. -/

@[simp] theorem size_ofArray (xs : Array α) : (ofArray xs).size = xs.size := rfl

@[simp] theorem get?_ofArray (xs : Array α) (i : Nat) : (ofArray xs).get? i = xs[i]? := rfl

@[simp] theorem size_ofList (xs : List α) : (ofList xs).size = xs.length := rfl

@[simp] theorem get?_ofList (xs : List α) (i : Nat) : (ofList xs).get? i = xs[i]? := by
  simp [ofList]

theorem lawful_ofArray (xs : Array α) : (ofArray xs).Lawful := fun i => by
  simp

theorem lawful_ofList (xs : List α) : (ofList xs).Lawful :=
  lawful_ofArray xs.toArray

/-- A checked read succeeds exactly with the element found at the position. -/
theorem read_eq_ok_iff {s : Indexed α} {i : Nat} {x : α} :
    s.read i = .ok x ↔ s.get? i = some x := by
  cases h : s.get? i <;> simp [read, h]

/-- A checked read fails only for want of an element, and names position and size. -/
theorem read_eq_error_iff {s : Indexed α} {i : Nat} {f : Fault} :
    s.read i = .error f ↔ s.get? i = none ∧ f = .indexOutOfRange i s.size := by
  cases h : s.get? i <;> simp [read, h, eq_comm]

/-- A lawful sequence finds nothing at its size or past it. -/
theorem Lawful.get?_eq_none {s : Indexed α} (h : s.Lawful) {i : Nat} (hi : s.size ≤ i) :
    s.get? i = none := by
  rw [← Option.not_isSome_iff_eq_none, h i]
  exact Nat.not_lt.2 hi

/-- A lawful sequence is lawful without its first positions as well. -/
theorem Lawful.drop {s : Indexed α} (h : s.Lawful) (n : Nat) : (s.drop n).Lawful := fun i => by
  show (s.get? (n + i)).isSome ↔ i < s.size - n
  rw [h (n + i)]
  omega

/-! ## §5. What reading in order finds. -/

/-- Reading in order finds an element exactly if it and all before it can be read. -/
theorem getElem?_itemsFrom {s : Indexed α} {n i k : Nat} {x : α} :
    (s.itemsFrom n i)[k]? = some x ↔
      k < n ∧ (∀ j < k, (s.get? (i + j)).isSome) ∧ s.get? (i + k) = some x := by
  induction n generalizing i k with
  | zero => simp [itemsFrom]
  | succ n ih =>
    unfold itemsFrom
    cases hi : s.get? i with
    | none =>
      simp only [List.getElem?_nil, reduceCtorEq, false_iff]
      intro hfound
      obtain ⟨_, hall, hk⟩ := hfound
      cases k with
      | zero => simp [hi] at hk
      | succ k => simpa [hi] using hall 0 (Nat.succ_pos k)
    | some y =>
      cases k with
      | zero => simp [hi]
      | succ k =>
        rw [List.getElem?_cons_succ, ih]
        -- position `j + 1` from `i` on is position `j` from `i + 1` on
        have shift : ∀ j, i + (j + 1) = i + 1 + j := fun j => by omega
        constructor
        · intro hfound
          obtain ⟨hk, hall, hx⟩ := hfound
          refine ⟨by omega, fun j hj => ?_, by rw [shift]; exact hx⟩
          cases j with
          | zero => simp [hi]
          | succ j => rw [shift]; exact hall j (by omega)
        · intro hfound
          obtain ⟨hk, hall, hx⟩ := hfound
          refine ⟨by omega, fun j hj => ?_, by rw [← shift]; exact hx⟩
          rw [← shift]
          exact hall (j + 1) (by omega)

/-- Reading in order finds no more than the declared size. -/
theorem length_itemsFrom_le (s : Indexed α) (n i : Nat) : (s.itemsFrom n i).length ≤ n := by
  induction n generalizing i with
  | zero => simp [itemsFrom]
  | succ n ih =>
    unfold itemsFrom
    split
    · simp
    · simpa using ih (i + 1)

/-- The first elements in order are found by fewer reads. -/
theorem take_itemsFrom (s : Indexed α) {k n : Nat} (h : k ≤ n) (i : Nat) :
    (s.itemsFrom n i).take k = s.itemsFrom k i := by
  induction n generalizing k i with
  | zero =>
    obtain rfl : k = 0 := Nat.le_zero.1 h
    rfl
  | succ n ih =>
    cases k with
    | zero => rfl
    | succ k =>
      unfold itemsFrom
      cases s.get? i with
      | none => rfl
      | some x =>
        show x :: (s.itemsFrom n (i + 1)).take k = _
        rw [ih (Nat.le_of_succ_le_succ h)]

/-- Reading in order, without a hole in the way, looks up one position after the other. -/
theorem itemsFrom_of_readable {s : Indexed α} {n i : Nat}
    (h : ∀ j < n, (s.get? (i + j)).isSome) :
    s.itemsFrom n i = (List.range' i n).filterMap s.get? := by
  induction n generalizing i with
  | zero => rfl
  | succ n ih =>
    obtain ⟨x, hx⟩ := Option.isSome_iff_exists.1 (h 0 (Nat.succ_pos n))
    rw [Nat.add_zero] at hx
    rw [List.range'_succ, List.filterMap_cons_some hx, ← ih]
    · simp only [itemsFrom, hx]
    · intro j hj
      rw [Nat.add_right_comm]
      exact h (j + 1) (Nat.succ_lt_succ hj)

/-- Reading a lawful sequence in order finds every element. -/
theorem Lawful.getElem?_items {s : Indexed α} (h : s.Lawful) (i : Nat) :
    s.items[i]? = s.get? i := by
  cases hi : s.get? i with
  | none =>
    cases hx : s.items[i]? with
    | none => rfl
    | some x =>
      obtain ⟨_, _, hget⟩ := getElem?_itemsFrom.1 hx
      rw [Nat.zero_add, hi] at hget
      exact absurd hget (by simp)
  | some x =>
    have hlt : i < s.size := (h i).1 (by simp [hi])
    refine getElem?_itemsFrom.2 ⟨hlt, fun j hj => ?_, by simpa using hi⟩
    rw [Nat.zero_add]
    exact (h j).2 (Nat.lt_trans hj hlt)

/-- A lawful sequence read in order gives the list with the same elements. -/
theorem Lawful.items_eq {s : Indexed α} (h : s.Lawful) {l : List α}
    (hl : ∀ i, l[i]? = s.get? i) : s.items = l :=
  List.ext_getElem? fun i => (h.getElem?_items i).trans (hl i).symm

/-- A lawful sequence has as many elements as it declares. -/
theorem Lawful.length_items {s : Indexed α} (h : s.Lawful) : s.items.length = s.size := by
  apply Nat.le_antisymm (length_itemsFrom_le s s.size 0)
  apply Nat.le_of_not_lt
  intro hlt
  -- a position between the two lengths could be read and would have been found
  have hsome := (h s.items.length).2 hlt
  rw [← h.getElem?_items, List.getElem?_eq_none (Nat.le_refl _)] at hsome
  simp at hsome

/-! ## §6. The first hole. -/

/-- The first position below the size that cannot be read, or the size if there is none. -/
def firstHole (s : Indexed α) : Nat :=
  (List.range s.size).findIdx fun i => (s.get? i).isNone

/-- The first hole does not lie past the size. -/
theorem firstHole_le (s : Indexed α) : s.firstHole ≤ s.size := by
  have h : s.firstHole ≤ (List.range s.size).length := List.findIdx_le_length
  rw [List.length_range] at h
  exact h

/-- The first hole, if there is one below the size, cannot be read. -/
theorem get?_firstHole {s : Indexed α} (h : s.firstHole < s.size) :
    s.get? s.firstHole = none := by
  have hlt : (List.range s.size).findIdx (fun i => (s.get? i).isNone)
      < (List.range s.size).length := by
    rw [List.length_range]
    exact h
  have hfound := @List.findIdx_getElem _ (fun i => (s.get? i).isNone) (List.range s.size) hlt
  rw [List.getElem_range hlt] at hfound
  exact Option.isNone_iff_eq_none.1 hfound

/-- Everything in front of the first hole can be read. -/
theorem isSome_of_lt_firstHole {s : Indexed α} {i : Nat} (h : i < s.firstHole) :
    (s.get? i).isSome := by
  have hfound := List.not_of_lt_findIdx h
  rw [List.getElem_range, Option.isNone_eq_false_iff] at hfound
  exact hfound

/-- Where more can be read, the first hole comes no sooner. -/
theorem firstHole_mono {β : Type v} {s : Indexed α} {s' : Indexed β} (hsize : s.size = s'.size)
    (hreadable : ∀ i < s.size, (s.get? i).isSome → (s'.get? i).isSome) :
    s.firstHole ≤ s'.firstHole := by
  apply Nat.le_of_not_lt
  intro hlt
  have hle := s.firstHole_le
  have hsome := hreadable s'.firstHole (by omega) (isSome_of_lt_firstHole hlt)
  rw [get?_firstHole (by omega)] at hsome
  exact absurd hsome (by simp)

/-- Where the first hole lies depends on which positions can be read, and not on the elements. -/
theorem firstHole_congr {β : Type v} {s : Indexed α} {s' : Indexed β} (hsize : s.size = s'.size)
    (hreadable : ∀ i < s.size, (s.get? i).isSome = (s'.get? i).isSome) :
    s.firstHole = s'.firstHole := by
  apply Nat.le_antisymm
  · exact firstHole_mono hsize fun i hi hs => hreadable i hi ▸ hs
  · exact firstHole_mono hsize.symm fun i hi hs => (hreadable i (hsize ▸ hi)).symm ▸ hs

/-- Reading in order finds what lies in front of the first hole. -/
theorem length_items (s : Indexed α) : s.items.length = s.firstHole := by
  apply Nat.le_antisymm
  · apply Nat.le_of_not_lt
    intro hlt
    -- an element found at the first hole would have been read there
    obtain ⟨hsize, _, hget⟩ := getElem?_itemsFrom.1 (List.getElem?_eq_getElem hlt)
    rw [Nat.zero_add, get?_firstHole hsize] at hget
    exact absurd hget (by simp)
  · apply Nat.le_of_not_lt
    intro hlt
    obtain ⟨x, hx⟩ := Option.isSome_iff_exists.1 (isSome_of_lt_firstHole hlt)
    have hfound : s.items[s.items.length]? = some x := by
      refine getElem?_itemsFrom.2 ⟨Nat.lt_of_lt_of_le hlt s.firstHole_le, ?_, ?_⟩
      · intro j hj
        rw [Nat.zero_add]
        exact isSome_of_lt_firstHole (Nat.lt_trans hj hlt)
      · rw [Nat.zero_add]
        exact hx
    rw [List.getElem?_eq_none (Nat.le_refl _)] at hfound
    exact absurd hfound (by simp)

end Indexed

end CommonSubsequence
