/-
  CommonSubsequence.Indexed.Text — the characters of a text, each found without reading the
  ones before it.

  A text that holds one-byte characters only is indexed by its bytes.  For any other text the byte
  at which each character starts is recorded once, and a character is decoded where it starts.
  Both ways number the Unicode scalar values of the text from zero.
-/
import CommonSubsequence.Indexed.Basic

namespace CommonSubsequence

/-! ## §1. Two ways of finding a character. -/

/-- How the characters of a text are found. -/
inductive Layout where
  /-- Character `i` is byte `i`. -/
  | bytes
  /-- Character `i` starts at byte `starts[i]`. -/
  | offsets (starts : Array Nat)
deriving DecidableEq, Repr

/-- A string together with the way its characters are found. -/
structure Text where
  string : String
  layout : Layout
deriving DecidableEq, Repr

namespace Text

/-- Every character is a single byte of its encoding. -/
def isAscii (s : String) : Bool :=
  s.toList.all fun c => c.val < 128

/-- The bytes at which the characters of a list start when the first one starts at `offset`. -/
def startsFrom (offset : Nat) : List Char → List Nat
  | [] => []
  | c :: cs => offset :: startsFrom (offset + c.utf8Size) cs

/-- The text of a string, in the layout that suits it. -/
def ofString (s : String) : Text where
  string := s
  layout := if isAscii s then .bytes else .offsets (startsFrom 0 s.toList).toArray

/-! ## §2. The text as a sequence. -/

/-- The byte at offset `i`, if the string is that long. -/
def byteAt? (s : String) (i : Nat) : Option UInt8 :=
  if h : (⟨i⟩ : String.Pos.Raw) < s.rawEndPos then some (s.getUTF8Byte ⟨i⟩ h) else none

/-- The number of characters. -/
def size (t : Text) : Nat :=
  match t.layout with
  | .bytes => t.string.utf8ByteSize
  | .offsets starts => starts.size

/-- The character at position `i`. -/
def get? (t : Text) (i : Nat) : Option Char :=
  match t.layout with
  | .bytes => (byteAt? t.string i).map Char.ofUInt8
  | .offsets starts => starts[i]?.bind fun start => String.Pos.Raw.get? t.string ⟨start⟩

/-- The characters, in order. -/
def chars (t : Text) : Indexed Char where
  size := t.size
  get? := t.get?

end Text

/-- The characters of a string. -/
def Indexed.ofString (s : String) : Indexed Char :=
  (Text.ofString s).chars

end CommonSubsequence
