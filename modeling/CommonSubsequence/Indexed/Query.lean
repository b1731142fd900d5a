/-
  CommonSubsequence.Indexed.Query — what can be asked of a sequence, and the answers.

  A query is either always answered, or it takes an element on the caller's promise that it is
  there (`element`); only the latter can be abandoned with a fault.
-/
import CommonSubsequence.Indexed.Cursor

namespace CommonSubsequence.Indexed

universe u
variable {α : Type u}

/-! ## §1. Queries and answers. -/

/-- One thing to ask of a sequence. -/
inductive Query (α : Type u) where
  | size
  | isEmpty
  /-- The element at a position, if any. -/
  | get (i : Nat)
  /-- The element at a position, or a fault as a value. -/
  | read (i : Nat)
  /-- The element at a position, promised to be there. -/
  | element (i : Nat)
  /-- The elements in order, up to the first hole. -/
  | items
  /-- The texts of those elements, joined. -/
  | text (render : α → String)
  /-- A fresh cursor and moves on it. -/
  | traverse (moves : List Cursor.Move)

/-- What a sequence answers. -/
inductive Answer (α : Type u) where
  | number (n : Nat)
  | flag (b : Bool)
  | found (x : Option α)
  | checked (x : Except Fault α)
  | element (x : α)
  | elements (xs : List α)
  | text (s : String)
  | moves (as : List (Cursor.Answer α))

/-! ## §2. Answering. -/

/-- The answer of a sequence to a query. -/
def answer (s : Indexed α) : Query α → Except Fault (Answer α)
  | .size => .ok (.number s.size)
  | .isEmpty => .ok (.flag s.isEmpty)
  | .get i => .ok (.found (s.get? i))
  | .read i => .ok (.checked (s.read i))
  | .element i => (s.read i).map .element
  | .items => .ok (.elements s.items)
  | .text render => .ok (.text (s.text render))
  | .traverse moves => .ok (.moves (Cursor.run s moves (Cursor.start s)).1)

end CommonSubsequence.Indexed
