/-
  CommonSubsequence.Proofs.Characters — the characters of a text, whichever way they are found.

  A text of one-byte characters is read off its bytes, any other text is decoded at the recorded
  starts.  Both ways present the list of its characters and nothing else, so everything about
  strings can be said of lists.

  Main results:
    * `Text.byteAt?_of_isAscii` — in a text of one-byte characters, bytes are characters.
    * `Text.get?_startsFrom` — what is decoded at the recorded starts.
    * `Indexed.ofString_eq` — a string is the sequence of its characters.
-/
import CommonSubsequence.Indexed.Text

namespace CommonSubsequence

namespace Text

/-! ## §1. One byte for each character. -/

/-- A character below 128 is encoded as the one byte of its number. -/
theorem utf8EncodeChar_of_lt {c : Char} (h : c.val < 128) :
    String.utf8EncodeChar c = [c.val.toUInt8] := by
  apply String.utf8EncodeChar_eq_singleton
  rw [Char.utf8Size_eq_one_iff]
  rw [UInt32.lt_iff_toNat_lt] at h
  rw [UInt32.le_iff_toNat_le]
  exact Nat.le_of_lt_succ h

/-- A character below 128 is recovered from its byte. -/
theorem ofUInt8_toUInt8 {c : Char} (h : c.val < 128) : Char.ofUInt8 c.val.toUInt8 = c := by
  apply Char.ext
  show c.val.toUInt8.toUInt32 = c.val
  rw [UInt32.lt_iff_toNat_lt] at h
  apply UInt32.toNat_inj.1
  rw [UInt8.toNat_toUInt32, UInt32.toNat_toUInt8]
  exact Nat.mod_eq_of_lt (Nat.lt_trans h (by decide))

theorem utf8Encode_of_lt {cs : List Char} (h : ∀ c ∈ cs, c.val < 128) :
    cs.utf8Encode = (cs.map fun c => c.val.toUInt8).toByteArray := by
  induction cs with
  | nil => simp
  | cons c cs ih =>
    rw [List.utf8Encode_cons, List.utf8Encode_singleton,
      utf8EncodeChar_of_lt (h c List.mem_cons_self),
      ih fun d hd => h d (List.mem_cons_of_mem c hd), List.map_cons, ← List.toByteArray_append]
    rfl

/-- A text that passes the test for bytes has only such characters. -/
theorem lt_of_isAscii {s : String} (h : isAscii s = true) : ∀ c ∈ s.toList, c.val < 128 := by
  intro c hc
  exact of_decide_eq_true (List.all_eq_true.1 h c hc)

theorem toByteArray_of_isAscii {s : String} (h : isAscii s = true) :
    s.toByteArray = (s.toList.map fun c => c.val.toUInt8).toByteArray := by
  rw [← String.utf8Encode_toList, utf8Encode_of_lt (lt_of_isAscii h)]

/-- Such a text has as many bytes as characters. -/
theorem utf8ByteSize_of_isAscii {s : String} (h : isAscii s = true) :
    s.utf8ByteSize = s.toList.length := by
  show s.toByteArray.size = _
  rw [toByteArray_of_isAscii h, List.size_toByteArray, List.length_map]

/-- In a text of one-byte characters the byte at a place is the character there. -/
theorem byteAt?_of_isAscii {s : String} (h : isAscii s = true) (i : Nat) :
    (byteAt? s i).map Char.ofUInt8 = s.toList[i]? := by
  have hsize := utf8ByteSize_of_isAscii h
  unfold byteAt?
  split
  · rename_i hi
    -- the byte is looked up in the encoding, which is the list of the characters' own bytes
    have hi' : i < s.toList.length := hsize ▸ hi
    have hbyte : s.getUTF8Byte ⟨i⟩ hi = (s.toList[i]).val.toUInt8 := by
      have hsize : i < s.toByteArray.size := hi
      show s.toByteArray[i] = _
      simp only [toByteArray_of_isAscii h, List.getElem_toByteArray, List.getElem_map]
    rw [Option.map_some, hbyte,
      ofUInt8_toUInt8 (lt_of_isAscii h _ (List.getElem_mem hi')), List.getElem?_eq_getElem hi']
  · rename_i hi
    have hi' : s.toList.length ≤ i := hsize ▸ Nat.le_of_not_lt hi
    rw [Option.map_none, List.getElem?_eq_none hi']

/-! ## §2. Recorded starts. -/

theorem length_startsFrom (o : Nat) (cs : List Char) : (startsFrom o cs).length = cs.length := by
  induction cs generalizing o with
  | nil => rfl
  | cons c cs ih => rw [startsFrom, List.length_cons, List.length_cons, ih]

/-- No recorded start lies before the first one. -/
theorem le_of_mem_startsFrom {o k : Nat} {cs : List Char} (h : k ∈ startsFrom o cs) : o ≤ k := by
  induction cs generalizing o with
  | nil => simp [startsFrom] at h
  | cons c cs ih =>
    rw [startsFrom, List.mem_cons] at h
    rcases h with rfl | h
    · exact Nat.le_refl k
    · exact Nat.le_trans (Nat.le_add_right o c.utf8Size) (ih h)

/-- Decoding at the recorded starts finds the characters one after the other. -/
theorem get?_startsFrom (o : Nat) (cs : List Char) (i : Nat) :
    ((startsFrom o cs)[i]?.bind fun k => String.Pos.Raw.utf8GetAux? cs ⟨o⟩ ⟨k⟩) = cs[i]? := by
  induction cs generalizing o i with
  | nil => simp [startsFrom]
  | cons c cs ih =>
    cases i with
    | zero =>
      -- the first start is where the decoder stands
      rw [startsFrom, List.getElem?_cons_zero, List.getElem?_cons_zero]
      show (if (⟨o⟩ : String.Pos.Raw) = ⟨o⟩ then some c else _) = some c
      rw [if_pos rfl]
    | succ i =>
      rw [startsFrom, List.getElem?_cons_succ, List.getElem?_cons_succ,
        ← ih (o + c.utf8Size) i]
      refine Option.bind_congr fun k hk => ?_
      -- later starts lie behind the whole of `c`, so decoding passes over it
      have hle := le_of_mem_startsFrom (List.mem_of_getElem? hk)
      have hpos := c.utf8Size_pos
      have hne : (⟨o⟩ : String.Pos.Raw) ≠ ⟨k⟩ := by
        intro he
        have hok : o = k := congrArg String.Pos.Raw.byteIdx he
        omega
      show (if (⟨o⟩ : String.Pos.Raw) = ⟨k⟩ then some c else _) = _
      rw [if_neg hne]
      rfl

end Text

/-! ## §3. A string is the list of its characters. -/

namespace Indexed

/-- Sequences of one size that find the same are the same. -/
theorem ext_get? {α : Type} {s t : Indexed α} (hsize : s.size = t.size)
    (hget : ∀ i, s.get? i = t.get? i) : s = t := by
  cases s
  cases t
  rw [Indexed.mk.injEq]
  exact ⟨hsize, funext hget⟩

/-- A lawful sequence is the list of its elements. -/
theorem Lawful.eq_ofList {α : Type} {s : Indexed α} (h : s.Lawful) : s = ofList s.items := by
  refine ext_get? ?_ fun i => ?_
  · rw [size_ofList, h.length_items]
  · rw [get?_ofList, h.getElem?_items]

/-- A text of one-byte characters presents its characters by bytes. -/
theorem chars_bytes {s : String} (h : Text.isAscii s = true) :
    (⟨s, .bytes⟩ : Text).chars = ofList s.toList := by
  refine ext_get? (Text.utf8ByteSize_of_isAscii h) fun i => ?_
  rw [get?_ofList]
  exact Text.byteAt?_of_isAscii h i

/-- Any text presents its characters by recorded starts. -/
theorem chars_offsets (s : String) :
    (⟨s, .offsets (Text.startsFrom 0 s.toList).toArray⟩ : Text).chars = ofList s.toList := by
  refine ext_get? (Text.length_startsFrom 0 s.toList) fun i => ?_
  rw [get?_ofList]
  show ((Text.startsFrom 0 s.toList).toArray[i]?.bind _) = _
  rw [List.getElem?_toArray]
  exact Text.get?_startsFrom 0 s.toList i

/-- Both layouts present the characters of the string. -/
theorem ofString_eq (s : String) : ofString s = ofList s.toList := by
  unfold ofString Text.ofString
  cases h : Text.isAscii s with
  | true => exact chars_bytes h
  | false => exact chars_offsets s

@[simp] theorem size_ofString (s : String) : (ofString s).size = s.length := by
  rw [ofString_eq, size_ofList, String.length_toList]

@[simp] theorem get?_ofString (s : String) (i : Nat) : (ofString s).get? i = s.toList[i]? := by
  rw [ofString_eq, get?_ofList]

theorem lawful_ofString (s : String) : (ofString s).Lawful := by
  rw [ofString_eq]
  exact lawful_ofList s.toList

end Indexed

end CommonSubsequence
