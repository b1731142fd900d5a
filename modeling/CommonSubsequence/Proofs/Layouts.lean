/-
  CommonSubsequence.Proofs.Layouts — bytes, recorded starts, and the text they stand for.

  A recorded start is the number of bytes in front of a character.  Cutting the string there falls
  between two characters, and what follows begins with the character that the start was recorded
  for; so the cut is never refused and there is always something to decode.  A text whose
  characters are single bytes needs no starts, and a single character of more bytes, however late,
  makes the whole text be read by its starts.  Either way the list of characters is presented, and
  a string is determined by it.

  Main results:
    * `Text.start_eq` — a recorded start counts the bytes in front of its character.
    * `Text.exists_slice` — the string can be cut there, and what follows the cut.
    * `layouts_present_characters` — both layouts, and when two strings are equal.
-/
import CommonSubsequence.Proofs.Characters

namespace CommonSubsequence

namespace Text

variable {s : String} {i k : Nat}

/-! ## §1. Which layout a text has. -/

theorem isAscii_iff : isAscii s = true ↔ ∀ c ∈ s.toList, c.val < 128 := by
  refine ⟨lt_of_isAscii, ?_⟩
  intro h
  exact List.all_eq_true.2 fun c hc => decide_eq_true (h c hc)

/-- A text is read by its bytes if its characters are single bytes, and by its starts otherwise. -/
theorem layout_cases (s : String) :
    (isAscii s = true ∧ (ofString s).layout = .bytes)
      ∨ (isAscii s = false ∧ (ofString s).layout = .offsets (startsFrom 0 s.toList).toArray) := by
  unfold ofString
  cases isAscii s with
  | true => exact Or.inl ⟨rfl, rfl⟩
  | false => exact Or.inr ⟨rfl, rfl⟩

/-- A text is indexed by its bytes exactly if all its characters are below 128. -/
theorem layout_eq_bytes_iff : (ofString s).layout = .bytes ↔ ∀ c ∈ s.toList, c.val < 128 := by
  rw [← isAscii_iff]
  rcases layout_cases s with ⟨hascii, hlayout⟩ | ⟨hascii, hlayout⟩
  · simp [hascii, hlayout]
  · simp [hascii, hlayout]

/-- Recorded starts are the starts of all characters. -/
theorem offsets_of_layout {starts : Array Nat} (h : (ofString s).layout = .offsets starts) :
    starts = (startsFrom 0 s.toList).toArray := by
  rcases layout_cases s with ⟨_, hlayout⟩ | ⟨_, hlayout⟩
  · rw [hlayout] at h
    cases h
  · rw [hlayout] at h
    exact (Layout.offsets.inj h).symm

/-! ## §2. Cutting a string at a recorded start. -/

/-- A recorded start counts the bytes of the characters in front of it. -/
theorem start_eq {o : Nat} {cs : List Char} (h : (startsFrom o cs)[i]? = some k) :
    i < cs.length ∧ k = o + (String.ofList (cs.take i)).utf8ByteSize := by
  induction cs generalizing o i with
  | nil => simp [startsFrom] at h
  | cons c cs ih =>
    cases i with
    | zero =>
      rw [startsFrom, List.getElem?_cons_zero, Option.some.injEq] at h
      subst h
      exact ⟨Nat.succ_pos _, rfl⟩
    | succ i =>
      rw [startsFrom, List.getElem?_cons_succ] at h
      obtain ⟨hi, hk⟩ := ih h
      refine ⟨Nat.succ_lt_succ hi, ?_⟩
      rw [List.take_succ_cons, String.ofList_cons, String.utf8ByteSize_append,
        String.utf8ByteSize_singleton, hk, Nat.add_assoc]

/-- A recorded start is a place between two characters, and what follows it is the rest of the
string from the character on that it was recorded for. -/
theorem exists_slice (h : (startsFrom 0 s.toList)[i]? = some k) :
    ∃ hk : (⟨k⟩ : String.Pos.Raw).IsValid s,
      (s.sliceFrom ⟨⟨k⟩, hk⟩).copy = String.ofList (s.toList.drop i) := by
  obtain ⟨_, hsize⟩ := start_eq h
  rw [Nat.zero_add] at hsize
  have hparts : s = String.ofList (s.toList.take i) ++ String.ofList (s.toList.drop i) := by
    rw [← String.ofList_append, List.take_append_drop, String.ofList_toList]
  have hstart : (⟨k⟩ : String.Pos.Raw) = (String.ofList (s.toList.take i)).rawEndPos :=
    congrArg String.Pos.Raw.mk hsize
  have hk : (⟨k⟩ : String.Pos.Raw).IsValid s :=
    String.Pos.Raw.isValid_iff_exists_append.2 ⟨_, _, hparts, hstart⟩
  have hsplits : (⟨⟨k⟩, hk⟩ : s.Pos).Splits _ _ := ⟨hparts, hstart⟩
  exact ⟨hk, hsplits.copy_sliceFrom_eq⟩

/-- What follows a recorded start begins with the character that it was recorded for. -/
theorem front?_slice (h : (startsFrom 0 s.toList)[i]? = some k) :
    ∃ (c : Char) (hk : (⟨k⟩ : String.Pos.Raw).IsValid s), s.toList[i]? = some c
      ∧ (s.sliceFrom ⟨⟨k⟩, hk⟩).front? = some c := by
  obtain ⟨hi, _⟩ := start_eq h
  obtain ⟨hk, hcopy⟩ := exists_slice h
  refine ⟨_, hk, List.getElem?_eq_getElem hi, ?_⟩
  rw [String.Slice.front?_eq, hcopy, String.toList_ofList, List.head?_drop,
    List.getElem?_eq_getElem hi]

end Text

/-! ## §3. The list of characters. -/

namespace Indexed

/-- The characters of a string in order. -/
theorem items_ofString (s : String) : (ofString s).items = s.toList :=
  (lawful_ofString s).items_eq fun i => (get?_ofString s i).symm

/-- Strings are equal if they have one length and equal characters. -/
theorem eq_iff_ofString {s s' : String} :
    s = s' ↔ (ofString s).size = (ofString s').size
      ∧ ∀ i < (ofString s).size, (ofString s).get? i = (ofString s').get? i := by
  constructor
  · intro h
    subst h
    exact ⟨rfl, fun i _ => rfl⟩
  · intro h
    obtain ⟨hsize, hget⟩ := h
    apply String.toList_inj.1
    rw [← items_ofString, ← items_ofString]
    apply (lawful_ofString s).items_eq
    intro i
    rw [(lawful_ofString s').getElem?_items]
    by_cases hi : i < (ofString s).size
    · exact (hget i hi).symm
    · -- past the common length both find nothing
      rw [(lawful_ofString s).get?_eq_none (by omega),
        (lawful_ofString s').get?_eq_none (by omega)]

end Indexed

/-! ## §4. What a text presents. -/

/-- **Both layouts present the characters of the text.**  A text is read by its bytes exactly if
its characters are single bytes; its size is the number of its characters, each is found at its
position, nothing is found past them, and all of them in order spell the text.  The starts that a
text records are as many as its characters; each is a place where the string can be cut, and the
cut is followed by the character that is found.  Where a text could be read either way, both
present the same; and two strings are equal exactly if their texts have one size and present equal
characters. -/
theorem layouts_present_characters :
    (∀ s : String,
      ((Text.ofString s).layout = .bytes ↔ ∀ c ∈ s.toList, c.val < 128)
        ∧ (Text.ofString s).size = s.length
        ∧ (∀ i, (Text.ofString s).get? i = s.toList[i]?)
        ∧ (Text.ofString s).chars.items = s.toList
        ∧ String.ofList (Text.ofString s).chars.items = s)
    ∧ (∀ (s : String) (starts : Array Nat), (Text.ofString s).layout = .offsets starts →
      starts.size = s.length
        ∧ ∀ i k, starts[i]? = some k →
          ∃ (c : Char) (hk : (⟨k⟩ : String.Pos.Raw).IsValid s),
            (Text.ofString s).get? i = some c ∧ (s.sliceFrom ⟨⟨k⟩, hk⟩).front? = some c)
    ∧ (∀ s : String, (Text.ofString s).layout = .bytes →
      (⟨s, .offsets (Text.startsFrom 0 s.toList).toArray⟩ : Text).chars = (Text.ofString s).chars)
    ∧ ∀ s s' : String, s = s' ↔ (Text.ofString s).size = (Text.ofString s').size
      ∧ ∀ i < (Text.ofString s).size, (Text.ofString s).get? i = (Text.ofString s').get? i := by
  refine ⟨?_, ?_, ?_, fun s s' => Indexed.eq_iff_ofString⟩
  · intro s
    have hitems : (Text.ofString s).chars.items = s.toList := Indexed.items_ofString s
    refine ⟨Text.layout_eq_bytes_iff, Indexed.size_ofString s, Indexed.get?_ofString s, hitems, ?_⟩
    rw [hitems, String.ofList_toList]
  · intro s starts hlayout
    obtain rfl := Text.offsets_of_layout hlayout
    refine ⟨?_, ?_⟩
    · rw [List.size_toArray, Text.length_startsFrom, String.length_toList]
    · intro i k hk
      rw [List.getElem?_toArray] at hk
      rw [show (Text.ofString s).get? i = s.toList[i]? from Indexed.get?_ofString s i]
      exact Text.front?_slice hk
  · intro s _
    exact (Indexed.chars_offsets s).trans (Indexed.ofString_eq s).symm

/-- Characters of two, one, three and four bytes. -/
theorem layouts_present_characters_mixed :
    (∃ starts, (Text.ofString "ña€😀").layout = .offsets starts ∧ starts.size = "ña€😀".length
        ∧ starts[3]? = some 6
        ∧ ∃ (c : Char) (hk : (⟨6⟩ : String.Pos.Raw).IsValid "ña€😀"),
          (Text.ofString "ña€😀").get? 3 = some c
            ∧ ("ña€😀".sliceFrom ⟨⟨6⟩, hk⟩).front? = some c)
      ∧ (Text.ofString "abc").layout = .bytes
      ∧ (⟨"abc", .offsets (Text.startsFrom 0 "abc".toList).toArray⟩ : Text).chars
        = (Text.ofString "abc").chars := by
  have hlayout : (Text.ofString "ña€😀").layout = .offsets #[0, 2, 3, 6] := by decide
  have hbytes : (Text.ofString "abc").layout = .bytes := by decide
  obtain ⟨hsize, hstarts⟩ := layouts_present_characters.2.1 _ _ hlayout
  exact ⟨⟨_, hlayout, hsize, rfl, hstarts 3 6 rfl⟩, hbytes,
    layouts_present_characters.2.2.1 _ hbytes⟩

end CommonSubsequence
