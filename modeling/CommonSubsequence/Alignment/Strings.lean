/-
  CommonSubsequence.Alignment.Strings — common subsequences of two strings.

  The elements of a string are its Unicode scalar values.  `commonLength` needs the grid only,
  `commonSubsequence` walks it and reads the selected characters of the first string.
-/
import CommonSubsequence.Alignment.Walk
import CommonSubsequence.Indexed.Text

namespace CommonSubsequence

/-- The characters of two strings under equality. -/
def Problem.ofStrings (a b : String) : Problem Char Char where
  rows := Indexed.ofString a
  columns := Indexed.ofString b
  agree x y := x == y

/-- The length of a longest common subsequence of two strings. -/
def commonLength (a b : String) : Except Fault Nat :=
  (Problem.ofStrings a b).length

/-- The longest common subsequence of two strings that the walk selects. -/
def commonSubsequence (a b : String) : Except Fault String := do
  let p := Problem.ofStrings a b
  let path ← p.path
  pure ((path.through p.rows).text String.singleton)

end CommonSubsequence
