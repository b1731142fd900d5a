/-
  CommonSubsequence.Engine.Session — a run of queries to one engine.

  `Engine.answer` gives each query its meaning as an action on the memo.  A session puts queries
  one after the other: an abandoned query is answered by its fault, and the next one starts from
  the memo that it left.
-/
import CommonSubsequence.Engine.Basic
import CommonSubsequence.Grid.Query
import CommonSubsequence.Grid.Text
import CommonSubsequence.Indexed.Query

namespace CommonSubsequence.Engine

variable {ρ γ α β : Type}

/-! ## §1. Queries and answers. -/

/-- One thing to ask of an engine. -/
inductive Query (α β : Type) where
  | cellCount
  | length
  /-- A new walk. -/
  | backtrack
  /-- Does a new walk find the stored path? -/
  | pathIsBacktrack
  /-- A query to the engine as a grid, behind layers. -/
  | table (layers : List Cells.Layer) (q : Cells.Query)
  /-- A query to the computed grid, behind layers. -/
  | grid (layers : List Cells.Layer) (q : Cells.Query)
  | gridText
  /-- A query to the row sequence. -/
  | rows (q : Indexed.Query α)
  /-- A query to the column sequence. -/
  | columns (q : Indexed.Query β)
  | pairs
  /-- A query to the path as a sequence. -/
  | path (q : Indexed.Query Pair)
  /-- A query to the common subsequence. -/
  | common (q : Indexed.Query α)

/-- What an engine answers. -/
inductive Answer (α β : Type) where
  | number (n : Nat)
  | flag (b : Bool)
  | pairs (p : Path)
  | text (s : String)
  | cells (a : Cells.Answer)
  | rows (a : Indexed.Answer α)
  | columns (a : Indexed.Answer β)
  | path (a : Indexed.Answer Pair)

/-! ## §2. Answering. -/

/-- The computed grid behind layers; it can only be read. -/
def layered (g : Grid) (layers : List Cells.Layer) : Cells Id :=
  (g.reading : Cells Id).under layers

/-- The answer of an engine to a query. -/
def answer (e : Engine ρ γ α β) : Query α β → Action (Memo ρ γ) (Answer α β)
  | .cellCount => do pure (.number (← e.cellCount))
  | .length => do pure (.number (← e.length))
  | .backtrack => do pure (.pairs (← e.backtrack))
  | .pathIsBacktrack => do
    let found ← e.backtrack
    let stored ← e.path
    pure (.flag (found == stored))
  | .table layers q => do
    let result ← (e.cells.under layers).answer q
    pure (.cells (← .ofExcept result))
  | .grid layers q => do
    let g ← e.grid
    pure (.cells (← .ofExcept ((layered g layers).answer q).run))
  | .gridText => do pure (.text (← e.grid).text)
  | .rows q => do
    let s ← e.openRows
    pure (.rows (← .ofExcept (s.answer q)))
  | .columns q => do
    let s ← e.openColumns
    pure (.columns (← .ofExcept (s.answer q)))
  | .pairs => do pure (.pairs (← e.path))
  | .path q => do
    let p ← e.path
    pure (.path (← .ofExcept (p.indexed.answer q)))
  | .common q => do
    let s ← e.common
    pure (.rows (← .ofExcept (s.answer q)))

/-! ## §3. Sessions. -/

/-- The reply to one query of a session. -/
structure Reply (α β : Type) where
  /-- The answer, or the fault that the query was abandoned with. -/
  answer : Except Fault (Answer α β)
  /-- The records sent on the way. -/
  log : List Entry

/-- Put queries to an engine, one after the other. -/
def session (e : Engine ρ γ α β) : List (Query α β) → Memo ρ γ →
    List (Reply α β) × Memo ρ γ
  | [], m => ([], m)
  | q :: qs, m =>
    let o := (e.answer q).run m
    let (replies, m') := session e qs o.state
    (⟨o.answer, o.log⟩ :: replies, m')

/-- The records of a whole session, in order. -/
def transcript (replies : List (Reply α β)) : List Entry :=
  replies.flatMap Reply.log

end CommonSubsequence.Engine
