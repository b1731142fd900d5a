/-
  CommonSubsequence.Record — what an engine reports about its work.

  An engine sends a record when a grid is complete, at every move of a walk, and when a walk has
  reached the edge.  A record carries data; its level and its text are functions of it.
-/
import CommonSubsequence.Alignment.Walk

namespace CommonSubsequence

/-! ## §1. Levels. -/

/-- How detailed a record is. -/
inductive Level where
  | debug
  | trace
deriving DecidableEq, Repr

namespace Level

/-- The name of a level. -/
def name : Level → String
  | debug => "DEBUG"
  | trace => "TRACE"

/-- Whether a record of the second level is kept when the first is the most detailed one asked
for. -/
def admits : Level → Level → Bool
  | trace, _ => true
  | debug, debug => true
  | debug, trace => false

end Level

/-! ## §2. Records. -/

/-- One report. -/
inductive Record where
  /-- A grid of this shape is complete, and its bottom right cell holds `length`. -/
  | gridComputed (rows columns : Nat) (length : Int32)
  /-- A walk made this move. -/
  | moved (m : Move)
  /-- A walk reached the edge with so many pairs. -/
  | pathFound (pairs : Nat)
deriving DecidableEq, Repr

namespace Record

/-- Moves are details, the two results are not. -/
def level : Record → Level
  | gridComputed _ _ _ => .debug
  | moved _ => .trace
  | pathFound _ => .debug

/-- The text of a record. -/
def message : Record → String
  | gridComputed rows columns length =>
    s!"computed {rows}x{columns} LCS grid, length {length.toInt}"
  | moved (.matched pair) => "match at " ++ pair.text
  | moved (.left row column) => s!"left from ({row}, {column})"
  | moved (.up row column) => s!"up from ({row}, {column})"
  | pathFound pairs => s!"reconstructed LCS path of {pairs} pairs"

/-- The record of a finished grid. -/
def reportsGrid : Record → Bool
  | gridComputed .. => true
  | moved _ => false
  | pathFound _ => false

/-- The record of a walk that reached the edge. -/
def reportsPath : Record → Bool
  | gridComputed .. => false
  | moved _ => false
  | pathFound _ => true

end Record

/-- The records of a walk: every move, and the number of pairs if the edge was reached. -/
def Trail.records (t : Trail) : List Record :=
  t.moves.map .moved ++
    match t.halt with
    | none => [.pathFound t.pairs.length]
    | some _ => []

/-- No record of a walk reports a grid. -/
theorem Trail.reportsGrid_records {t : Trail} {r : Record} (hr : r ∈ t.records) :
    r.reportsGrid = false := by
  unfold Trail.records at hr
  rcases List.mem_append.1 hr with hr | hr
  · obtain ⟨move, _, rfl⟩ := List.mem_map.1 hr
    rfl
  · cases hhalt : t.halt with
    | none =>
      rw [hhalt, List.mem_singleton] at hr
      rw [hr]
      rfl
    | some f =>
      rw [hhalt] at hr
      cases hr

/-! ## §3. Where a record comes from. -/

/-- Which of its two sequences an engine was reading. -/
inductive Axis where
  | rows
  | columns
deriving DecidableEq, Repr

/-- A record and the way from the engine that was asked to the engine that sent it: the empty way
is the engine itself, and each step goes to the engine that supplies one of the sequences. -/
structure Entry where
  /-- The way to the sender. -/
  sender : List Axis
  /-- What was sent. -/
  record : Record
deriving DecidableEq, Repr

namespace Entry

/-- A record that the engine itself sends. -/
def own (r : Record) : Entry := ⟨[], r⟩

/-- The same entry seen from one engine further out. -/
def along (a : Axis) (e : Entry) : Entry := { e with sender := a :: e.sender }

/-- The entry as the engine along an axis sees it, if it comes from there. -/
def back? (a : Axis) (e : Entry) : Option Entry :=
  match e.sender with
  | [] => none
  | a' :: way => if a' = a then some { e with sender := way } else none

/-- What was heard from the engine along an axis. -/
def heard (a : Axis) (l : List Entry) : List Entry :=
  l.filterMap (back? a)

/-- What the engine itself sent. -/
def spoken (l : List Entry) : List Entry :=
  l.filter fun e => e.sender.isEmpty

/-- What is heard of two logs is heard of one after the other. -/
theorem heard_append (a : Axis) (l l' : List Entry) :
    heard a (l ++ l') = heard a l ++ heard a l' :=
  List.filterMap_append

theorem spoken_append (l l' : List Entry) : spoken (l ++ l') = spoken l ++ spoken l' :=
  List.filter_append l l'

/-- An engine hears what is sent along an axis as it was sent. -/
theorem heard_along (a : Axis) (l : List Entry) : heard a (l.map (along a)) = l := by
  have hback : back? a ∘ along a = some := funext fun e => if_pos rfl
  unfold heard
  rw [List.filterMap_map, hback, List.filterMap_some]

/-- Along one axis nothing is heard of the other one. -/
theorem heard_along_of_ne {a b : Axis} (h : b ≠ a) (l : List Entry) :
    heard a (l.map (along b)) = [] := by
  unfold heard
  rw [List.filterMap_map]
  exact List.filterMap_eq_nil_iff.2 fun e _ => if_neg h

theorem heard_own (a : Axis) (rs : List Record) : heard a (rs.map own) = [] := by
  unfold heard
  rw [List.filterMap_map]
  exact List.filterMap_eq_nil_iff.2 fun r _ => rfl

/-- What comes from a source is not sent by the engine itself. -/
theorem spoken_along (a : Axis) (l : List Entry) : spoken (l.map (along a)) = [] := by
  unfold spoken
  rw [List.filter_map, List.map_eq_nil_iff]
  exact List.filter_eq_nil_iff.2 fun e _ => Bool.false_ne_true

theorem spoken_own (rs : List Record) : spoken (rs.map own) = rs.map own := by
  unfold spoken
  rw [List.filter_map]
  exact congrArg _ (List.filter_eq_self.2 fun r _ => rfl)

end Entry

end CommonSubsequence
