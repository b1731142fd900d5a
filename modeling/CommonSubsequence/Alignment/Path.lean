/-
  CommonSubsequence.Alignment.Path — an alignment as a sequence of pairs, and what it selects.

  A path is itself a sequence.  Read through a row sequence it selects elements: the element at
  `i` is the row element at the row of the `i`-th pair.  The selection has the size of the path
  even where the row sequence cannot be read.
-/
import CommonSubsequence.Alignment.Pair
import CommonSubsequence.Indexed.Basic

namespace CommonSubsequence

universe u
variable {α : Type u}

/-- The pairs of an alignment, earliest first. -/
structure Path where
  pairs : List Pair
deriving DecidableEq, Repr, Inhabited

namespace Path

/-- The path as a sequence of pairs. -/
def indexed (p : Path) : Indexed Pair :=
  Indexed.ofList p.pairs

/-- The elements of a row sequence that the path selects. -/
def through (p : Path) (rows : Indexed α) : Indexed α :=
  let pairs := p.indexed
  { size := pairs.size
    get? := fun i => (pairs.get? i).bind fun q => rows.get? q.row }

@[simp] theorem size_indexed (p : Path) : p.indexed.size = p.pairs.length := rfl

@[simp] theorem get?_indexed (p : Path) (i : Nat) : p.indexed.get? i = p.pairs[i]? :=
  Indexed.get?_ofList p.pairs i

@[simp] theorem size_through (p : Path) (rows : Indexed α) :
    (p.through rows).size = p.pairs.length := rfl

/-- The selection finds at a position what the rows find at the row of the pair there. -/
@[simp] theorem get?_through (p : Path) (rows : Indexed α) (i : Nat) :
    (p.through rows).get? i = p.pairs[i]?.bind fun q => rows.get? q.row := by
  simp [through]

/-- A path can be read exactly below its length. -/
theorem lawful_indexed (p : Path) : p.indexed.Lawful :=
  Indexed.lawful_ofList p.pairs

/-- A selection is lawful as soon as every row that the path names can be read. -/
theorem lawful_through {p : Path} {rows : Indexed α}
    (h : ∀ q ∈ p.pairs, (rows.get? q.row).isSome) : (p.through rows).Lawful := fun i => by
  rw [get?_through, size_through]
  by_cases hi : i < p.pairs.length
  · simp [hi, h _ (List.getElem_mem hi)]
  · simp [hi]

end Path

end CommonSubsequence
