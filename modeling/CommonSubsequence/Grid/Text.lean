/-
  CommonSubsequence.Grid.Text — a grid as text, and rows of numbers read back from text.

  A row is written as its cells in decimal, one space between neighbours and a line feed after the
  last; a row without cells is an empty line.  `rowsOfText?` reads such lines: no text after the
  last line feed, and every piece between spaces a decimal number with an optional minus sign.
  `cellsOfText?` reads them as cells, for which a number has to fit into 32 bits.
-/
import CommonSubsequence.Grid.Basic

namespace CommonSubsequence.Grid

/-! ## §1. Writing. -/

def lineText (cells : List Int32) : String :=
  " ".intercalate (cells.map fun v => toString v.toInt) ++ "\n"

/-- The grid as text, one line per row. -/
def text (g : Grid) : String :=
  String.join (g.toRows.map lineText)

/-! ## §2. Reading back. -/

/-- The pieces that `mark` ends, each without it, and what follows the last mark. -/
def splitAfter (mark : Char) : List Char → List (List Char) × List Char
  | [] => ([], [])
  | c :: cs =>
    let (pieces, rest) := splitAfter mark cs
    if c = mark then ([] :: pieces, rest)
    else
      match pieces with
      | [] => ([], c :: rest)
      | p :: ps => ((c :: p) :: ps, rest)

/-- The number that a run of decimal digits after `n` denotes. -/
def digitsValue? (n : Nat) : List Char → Option Nat
  | [] => some n
  | c :: cs => if c.isDigit then digitsValue? (10 * n + (c.toNat - '0'.toNat)) cs else none

/-- The integer that a decimal numeral with an optional minus sign denotes. -/
def decimal? : List Char → Option Int
  | [] => none
  | ['-'] => none
  | '-' :: c :: cs => (digitsValue? 0 (c :: cs)).map fun n => -(n : Int)
  | c :: cs => (digitsValue? 0 (c :: cs)).map fun n => (n : Int)

/-- The numbers of one line, its pieces parted by single spaces. -/
def numbersOfLine? (line : List Char) : Option (List Int) :=
  let (pieces, rest) := splitAfter ' ' line
  (pieces ++ [rest]).mapM decimal?

/-- The rows of numbers that a text of ended lines denotes. -/
def rowsOfText? (s : String) : Option (List (List Int)) :=
  match splitAfter '\n' s.toList with
  | (lines, []) => lines.mapM numbersOfLine?
  | (_, _ :: _) => none

/-- The number as a cell, if 32 bits can hold it. -/
def cell? (n : Int) : Option Int32 :=
  if Int32.minValue.toInt ≤ n ∧ n ≤ Int32.maxValue.toInt then some (Int32.ofInt n) else none

/-- The rows of cells that a text of ended lines denotes. -/
def cellsOfText? (s : String) : Option (List (List Int32)) :=
  (rowsOfText? s).bind fun rows => rows.mapM fun row => row.mapM cell?

end CommonSubsequence.Grid
