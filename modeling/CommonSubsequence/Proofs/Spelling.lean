/-
  CommonSubsequence.Proofs.Spelling — a grid read back from its text.

  Neither a space nor a line feed occurs in a decimal number, so both marks part a text where they
  were put and nowhere else, and a number is found again from its digits.  What is read back are the
  rows.  A grid with a row and a column is determined by its rows: their number and their length are
  its shape.

  A grid without rows has the empty text whatever the number of its columns, which is why the shape
  must not be empty.

  Main results:
    * `Grid.splitAfter_ended`, `Grid.splitAfter_parted` — pieces between marks.
    * `Grid.decimal?_toString` — numbers.
    * `Grid.rowsOfText?_text`, `Grid.cellsOfText?_text` — the rows of a grid.
    * `text_determines_grid` — the grid.
-/
import CommonSubsequence.Grid.Text
import CommonSubsequence.Proofs.Alike

namespace CommonSubsequence

namespace Grid

/-! ## §1. Pieces. -/

section Pieces

variable {mark : Char} {piece : List Char} {pieces : List (List Char)}

/-- Without a mark there is nothing to part. -/
theorem splitAfter_of_not_mem (h : mark ∉ piece) : splitAfter mark piece = ([], piece) := by
  induction piece with
  | nil => rfl
  | cons c cs ih =>
    rw [List.mem_cons, not_or] at h
    obtain ⟨hc, hcs⟩ := h
    rw [splitAfter, ih hcs]
    exact if_neg fun e => hc e.symm

/-- The first piece ends at the first mark. -/
theorem splitAfter_piece (h : mark ∉ piece) (rest : List Char) :
    splitAfter mark (piece ++ mark :: rest)
      = (piece :: (splitAfter mark rest).1, (splitAfter mark rest).2) := by
  induction piece with
  | nil =>
    show splitAfter mark (mark :: rest) = _
    rw [splitAfter]
    exact if_pos rfl
  | cons c cs ih =>
    rw [List.mem_cons, not_or] at h
    obtain ⟨hc, hcs⟩ := h
    rw [List.cons_append, splitAfter, ih hcs]
    exact if_neg fun e => hc e.symm

/-- Ended pieces are found again, and nothing is left. -/
theorem splitAfter_ended (h : ∀ p ∈ pieces, mark ∉ p) :
    splitAfter mark (pieces.flatMap fun p => p ++ [mark]) = (pieces, []) := by
  induction pieces with
  | nil => rfl
  | cons p ps ih =>
    rw [List.forall_mem_cons] at h
    obtain ⟨hp, hps⟩ := h
    rw [List.flatMap_cons, List.append_assoc, List.singleton_append, splitAfter_piece hp, ih hps]

/-- Pieces with a mark between neighbours are found again, the last one as what is left. -/
theorem splitAfter_parted (hne : pieces ≠ []) (h : ∀ p ∈ pieces, mark ∉ p) :
    (splitAfter mark ([mark].intercalate pieces)).1
      ++ [(splitAfter mark ([mark].intercalate pieces)).2] = pieces := by
  induction pieces with
  | nil => exact absurd rfl hne
  | cons p ps ih =>
    rw [List.forall_mem_cons] at h
    obtain ⟨hp, hps⟩ := h
    by_cases hlast : ps = []
    · rw [hlast, List.intercalate_singleton, splitAfter_of_not_mem hp]
      rfl
    · rw [List.intercalate_cons_of_ne_nil hlast, List.append_assoc, List.singleton_append,
        splitAfter_piece hp, List.cons_append, ih hlast hps]

/-- What does not occur in the pieces and is not their mark does not occur between them. -/
theorem not_mem_parted {c : Char} (hc : c ≠ mark) (h : ∀ p ∈ pieces, c ∉ p) :
    c ∉ [mark].intercalate pieces := by
  induction pieces with
  | nil => exact List.not_mem_nil
  | cons p ps ih =>
    rw [List.forall_mem_cons] at h
    obtain ⟨hp, hps⟩ := h
    by_cases hlast : ps = []
    · rw [hlast, List.intercalate_singleton]
      exact hp
    · rw [List.intercalate_cons_of_ne_nil hlast, List.mem_append, List.mem_append,
        List.mem_singleton]
      exact not_or.2 ⟨not_or.2 ⟨hp, hc⟩, ih hps⟩

/-- What can be read back piece by piece can be read back as a whole. -/
theorem mapM_map_eq_some {α β γ : Type} {write : α → β} {read? : β → Option γ} {value : α → γ}
    {xs : List α} (h : ∀ x ∈ xs, read? (write x) = some (value x)) :
    (xs.map write).mapM read? = some (xs.map value) := by
  induction xs with
  | nil => rfl
  | cons x xs ih =>
    rw [List.forall_mem_cons] at h
    obtain ⟨hx, hxs⟩ := h
    rw [List.map_cons, List.mapM_cons, hx, ih hxs]
    rfl

end Pieces

/-! ## §2. Numbers. -/

/-- Decimal digits denote the number they are the digits of. -/
theorem digitsValue?_eq {cs : List Char} (h : ∀ c ∈ cs, c.isDigit = true) (n : Nat) :
    digitsValue? n cs = some (Nat.ofDigitChars 10 cs n) := by
  induction cs generalizing n with
  | nil => rfl
  | cons c cs ih =>
    rw [List.forall_mem_cons] at h
    obtain ⟨hc, hcs⟩ := h
    rw [digitsValue?, if_pos hc, ih hcs, Nat.ofDigitChars_cons]

/-- The digits of a number denote it. -/
theorem digitsValue?_toDigits (n : Nat) : digitsValue? 0 (Nat.toDigits 10 n) = some n := by
  rw [digitsValue?_eq fun c hc => Nat.isDigit_of_mem_toDigits (by decide) (by decide) hc,
    Nat.ofDigitChars_ten_toDigits]

theorem not_mem_toDigits {mark : Char} (h : mark.isDigit = false) (n : Nat) :
    mark ∉ Nat.toDigits 10 n := by
  intro hmem
  have hdigit := Nat.isDigit_of_mem_toDigits (by decide) (by decide) hmem
  rw [h] at hdigit
  exact Bool.false_ne_true hdigit

/-- Digits alone are read as a number that is not negative. -/
theorem decimal?_toDigits (n : Nat) : decimal? (Nat.toDigits 10 n) = some (n : Int) := by
  have hvalue := digitsValue?_toDigits n
  cases hcs : Nat.toDigits 10 n with
  | nil => exact absurd hcs Nat.toDigits_ne_nil
  | cons c cs =>
    have hc : c ≠ '-' := by
      rintro rfl
      exact not_mem_toDigits (by decide) n (hcs ▸ List.mem_cons_self)
    rw [hcs] at hvalue
    rw [decimal?, hvalue]
    · rfl
    -- the first character is not taken for a minus sign
    · exact fun e _ => hc e
    · exact fun _ _ e _ => hc e

theorem decimal?_minus_toDigits (n : Nat) :
    decimal? ('-' :: Nat.toDigits 10 n) = some (-(n : Int)) := by
  have hvalue := digitsValue?_toDigits n
  cases hcs : Nat.toDigits 10 n with
  | nil => exact absurd hcs Nat.toDigits_ne_nil
  | cons c cs =>
    rw [hcs] at hvalue
    rw [decimal?, hvalue]
    rfl

/-- A number is its digits, after a minus sign if it is negative. -/
theorem toList_toString (n : Int) :
    (toString n).toList
      = if 0 ≤ n then Nat.toDigits 10 n.toNat else '-' :: Nat.toDigits 10 (-n).toNat := by
  rw [Int.toString_eq_repr, Int.repr_eq_if]
  split
  · rw [Nat.repr_eq_ofList_toDigits, String.toList_ofList]
  · rw [String.toList_append, Nat.repr_eq_ofList_toDigits]
    exact congrArg (List.cons '-') String.toList_ofList

/-- A mark that is neither a digit nor the minus sign does not occur in a number. -/
theorem not_mem_toString {mark : Char} (hdigit : mark.isDigit = false) (hminus : mark ≠ '-')
    (n : Int) : mark ∉ (toString n).toList := by
  rw [toList_toString]
  split
  · exact not_mem_toDigits hdigit _
  · rw [List.mem_cons, not_or]
    exact ⟨hminus, not_mem_toDigits hdigit _⟩

/-- **A number is found again from its decimal form.** -/
theorem decimal?_toString (n : Int) : decimal? (toString n).toList = some n := by
  rw [toList_toString]
  split
  · rename_i hn
    rw [decimal?_toDigits, Int.toNat_of_nonneg hn]
  · rename_i hn
    rw [decimal?_minus_toDigits, Int.toNat_of_nonneg (by omega), Int.neg_neg]

/-- A cell is found again from its number. -/
theorem cell?_toInt (v : Int32) : cell? v.toInt = some v := by
  rw [cell?, if_pos ⟨v.minValue_le_toInt, v.toInt_le⟩, Int32.ofInt_toInt]

/-! ## §3. Rows. -/

section Rows

variable {g g' : Grid} {r c : Nat}

/-- The characters of a cell. -/
def cellChars (v : Int32) : List Char :=
  (toString v.toInt).toList

/-- The characters of a line before its line feed. -/
def lineChars (cells : List Int32) : List Char :=
  [' '].intercalate (cells.map cellChars)

/-- A line ends with its only line feed. -/
theorem toList_lineText (cells : List Int32) :
    (lineText cells).toList = lineChars cells ++ ['\n'] := by
  rw [lineText, String.toList_append, String.toList_intercalate, List.map_map]
  rfl

/-- A mark that is neither a digit nor the minus sign occurs in no cell. -/
theorem not_mem_cellChars {mark : Char} (hdigit : mark.isDigit = false) (hminus : mark ≠ '-')
    (cells : List Int32) : ∀ p ∈ cells.map cellChars, mark ∉ p := by
  rw [List.forall_mem_map]
  intro v _
  exact not_mem_toString hdigit hminus v.toInt

theorem lineFeed_not_mem_lineChars (cells : List Int32) : '\n' ∉ lineChars cells :=
  not_mem_parted (by decide) (not_mem_cellChars (by decide) (by decide) cells)

/-- The numbers of a line with at least one cell. -/
theorem numbersOfLine?_lineChars {cells : List Int32} (hne : cells ≠ []) :
    numbersOfLine? (lineChars cells) = some (cells.map Int32.toInt) := by
  have hspaces : ∀ p ∈ cells.map cellChars, ' ' ∉ p :=
    not_mem_cellChars (by decide) (by decide) cells
  show List.mapM decimal? ((splitAfter ' ' (lineChars cells)).1
    ++ [(splitAfter ' ' (lineChars cells)).2]) = _
  rw [lineChars, splitAfter_parted (by simpa using hne) hspaces]
  exact mapM_map_eq_some fun v _ => decimal?_toString v.toInt

/-- Every row has as many cells as there are columns. -/
theorem length_row (hr : r < g.rows) : (g.row r).length = g.columns := by
  have hle : (r + 1) * g.columns ≤ g.cells.size := by
    rw [g.size_cells]
    exact Nat.mul_le_mul_right _ hr
  rw [row, Array.length_toList, Array.size_extract, Nat.min_eq_left hle, Nat.succ_mul,
    Nat.add_sub_cancel_left]

/-- The cells of a row stand in the order of the columns. -/
theorem getElem?_row (h : g.InRange r c) : (g.row r)[c]? = some (g.get r c h) := by
  have hc : c < (g.cells.extract (r * g.columns) ((r + 1) * g.columns)).size := by
    rw [← Array.length_toList]
    exact Nat.lt_of_lt_of_eq h.2 (length_row h.1).symm
  rw [row, Array.getElem?_toList, Array.getElem?_eq_getElem hc, Array.getElem_extract]
  rfl

theorem length_toRows : g.toRows.length = g.rows := by
  rw [toRows, List.length_map, List.length_range]

theorem getElem?_toRows (hr : r < g.rows) : g.toRows[r]? = some (g.row r) := by
  rw [toRows, List.getElem?_map, List.getElem?_range hr]
  rfl

theorem ne_nil_of_mem_toRows (hcolumns : 0 < g.columns) {cells : List Int32}
    (h : cells ∈ g.toRows) : cells ≠ [] := by
  obtain ⟨r, hr, rfl⟩ := List.mem_map.1 h
  rw [← List.length_pos_iff, length_row (List.mem_range.1 hr)]
  exact hcolumns

/-- **The numbers that a text denotes are those of the rows of its grid.** -/
theorem rowsOfText?_text (hcolumns : 0 < g.columns) :
    rowsOfText? g.text = some (g.toRows.map fun cells => cells.map Int32.toInt) := by
  have hlines : g.text.toList = (g.toRows.map lineChars).flatMap fun p => p ++ ['\n'] := by
    rw [text, String.toList_join, List.flatMap_map, List.flatMap_map]
    simp only [toList_lineText]
  have hlineFeeds : ∀ p ∈ g.toRows.map lineChars, '\n' ∉ p := by
    rw [List.forall_mem_map]
    intro cells _
    exact lineFeed_not_mem_lineChars cells
  rw [rowsOfText?, hlines, splitAfter_ended hlineFeeds]
  exact mapM_map_eq_some fun cells h => numbersOfLine?_lineChars (ne_nil_of_mem_toRows hcolumns h)

/-- **The cells that a text denotes are those of the rows of its grid.** -/
theorem cellsOfText?_text (hcolumns : 0 < g.columns) : cellsOfText? g.text = some g.toRows := by
  have hrow : ∀ cells : List Int32, (cells.map Int32.toInt).mapM cell? = some cells := by
    intro cells
    rw [mapM_map_eq_some fun v _ => cell?_toInt v, List.map_id']
  rw [cellsOfText?, rowsOfText?_text hcolumns, Option.bind_some,
    mapM_map_eq_some fun cells _ => hrow cells, List.map_id']

/-- Rows determine a grid that has a row and a column. -/
theorem eq_of_toRows_eq (hrows : 0 < g.rows) (h : g.toRows = g'.toRows) : g = g' := by
  have hrows_eq : g.rows = g'.rows := by
    rw [← length_toRows, h, length_toRows]
  have hrow : ∀ r < g.rows, g.row r = g'.row r := by
    intro r hr
    have hsame := congrArg (·[r]?) h
    simp only [getElem?_toRows hr, getElem?_toRows (hrows_eq ▸ hr), Option.some.injEq] at hsame
    exact hsame
  have hcolumns_eq : g.columns = g'.columns := by
    rw [← length_row hrows, hrow 0 hrows, length_row (hrows_eq ▸ hrows)]
  refine ext_read hrows_eq hcolumns_eq ?_
  intro r c hin
  have hin' : g'.InRange r c := ⟨hrows_eq ▸ hin.1, hcolumns_eq ▸ hin.2⟩
  have hcell := getElem?_row hin
  rw [hrow r hin.1, getElem?_row hin', Option.some.injEq] at hcell
  rw [read_of_inRange hin, read_of_inRange hin', hcell]

end Rows

end Grid

/-! ## §4. The text of a grid. -/

/-- **The text of a grid that has a row and a column determines it.**  Its lines, each parted at the
spaces, read piece by piece as numbers and then as cells, are the rows of the grid; so grids of the
same text have the same shape and the same cells. -/
theorem text_determines_grid {g : Grid} (hrows : 0 < g.rows) (hcolumns : 0 < g.columns) :
    (Grid.rowsOfText? g.text = some (g.toRows.map fun cells => cells.map Int32.toInt)
      ∧ Grid.cellsOfText? g.text = some g.toRows)
      ∧ ∀ g' : Grid, 0 < g'.rows → 0 < g'.columns → g.text = g'.text → g = g' := by
  refine ⟨⟨Grid.rowsOfText?_text hcolumns, Grid.cellsOfText?_text hcolumns⟩, ?_⟩
  intro g' _ hcolumns' htext
  have hrows_eq : some g.toRows = some g'.toRows := by
    rw [← Grid.cellsOfText?_text hcolumns, htext, Grid.cellsOfText?_text hcolumns']
  exact Grid.eq_of_toRows_eq hrows (Option.some.inj hrows_eq)

/-- The least and the greatest cell are read back, and the same cells in another shape have another
text. -/
theorem text_determines_grid_extremes :
    let g : Grid := ⟨2, 2, #[-2147483648, 2147483647, -1, 0], rfl⟩
    let g' : Grid := ⟨1, 4, #[-2147483648, 2147483647, -1, 0], rfl⟩
    g.text = "-2147483648 2147483647\n-1 0\n"
      ∧ Grid.cellsOfText? g.text = some [[-2147483648, 2147483647], [-1, 0]]
      ∧ g.text ≠ g'.text := by
  intro g g'
  have h := text_determines_grid (g := g) (by decide) (by decide)
  refine ⟨by decide, h.1.2, ?_⟩
  intro htext
  have e : g = g' := h.2 g' (by decide) (by decide) htext
  exact absurd (congrArg Grid.rows e) (by decide)

end CommonSubsequence
