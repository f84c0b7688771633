import Mathlib.Data.List.Basic
import RuleCompiler.Proofs.Text.ByteOrder
import RuleCompiler.Text.Piece

/-!
What texts end in. The bytes of a text end in those of another one only where the characters do,
because the first byte of a character is not found inside another character. So a text may be cut
by counting bytes wherever a text was found at its end.
-/

namespace RuleCompiler.Text

theorem startsWith_iff {lead text : List Char} : startsWith lead text = true ↔ lead <+: text := by
  unfold startsWith
  induction lead generalizing text with
  | nil => exact iff_of_true rfl List.nil_prefix
  | cons l lead ih =>
      cases text with
      | nil => exact iff_of_false Bool.false_ne_true (by simp)
      | cons c text =>
          rw [List.cons_prefix_cons, afterLead]
          by_cases same : l = c
          · rw [if_pos same, ih]
            exact (and_iff_right same).symm
          · rw [if_neg same]
            exact iff_of_false Bool.false_ne_true fun both => same both.1

theorem endsWith_iff {tail text : List Char} : endsWith tail text = true ↔ tail <:+ text := by
  unfold endsWith
  rw [startsWith_iff, List.reverse_prefix]

theorem eq_append_of_suffix {text ending : String} (isEnding : ending.toList <:+ text.toList) :
    ∃ before : String, text = before ++ ending := by
  obtain ⟨before, split⟩ := isEnding
  refine ⟨String.ofList before, String.toList_injective ?_⟩
  rw [String.toList_append, String.toList_ofList, split]

/-! ### Bytes -/

theorem length_bytes (text : String) : (bytes text).length = text.utf8ByteSize := by
  unfold bytes
  rw [Array.length_toList]
  exact String.size_toByteArray

theorem bytes_append (first second : String) :
    bytes (first ++ second) = bytes first ++ bytes second := by
  rw [bytes_eq_flatMap, bytes_eq_flatMap, bytes_eq_flatMap, String.toList_append,
    List.flatMap_append]

theorem bytes_injective {first second : String} (same : bytes first = bytes second) :
    first = second :=
  String.toByteArray_inj.mp (ByteArray.ext (Array.toList_inj.mp same))

/-- Where a text is found at the end, counting its bytes from the end leads between characters. -/
theorem isValid_of_suffix {text ending : String} (isEnding : ending.toList <:+ text.toList) :
    String.Pos.Raw.IsValid text ⟨text.utf8ByteSize - ending.utf8ByteSize⟩ := by
  obtain ⟨before, textEq⟩ := eq_append_of_suffix isEnding
  rw [String.Pos.Raw.isValid_iff_exists_append]
  refine ⟨before, ending, textEq, ?_⟩
  rw [textEq, String.utf8ByteSize_append, Nat.add_sub_cancel_right]
  rfl

/-- The bytes of a text start with the first byte of a character. -/
theorem isFirstByte_of_bytes {text : String} {byte : UInt8} {more : List UInt8}
    (shape : bytes text = byte :: more) : byte.IsUTF8FirstByte := by
  rw [bytes_eq_flatMap] at shape
  cases letters : text.toList with
  | nil =>
      rw [letters] at shape
      cases shape
  | cons c rest =>
      have first := UInt8.isUTF8FirstByte_getElem_zero_utf8EncodeChar (c := c)
      obtain ⟨head, others, encoded⟩ :=
        List.exists_cons_of_ne_nil (String.utf8EncodeChar_ne_nil (c := c))
      rw [letters, List.flatMap_cons, encoded, List.cons_append] at shape
      obtain ⟨rfl, _⟩ := List.cons.inj shape
      simpa only [encoded, List.getElem_cons_zero] using first

theorem getElem?_bytes (text : String) (place : String.Pos.Raw) (inside : place < text.rawEndPos) :
    (bytes text)[place.byteIdx]? = some (text.getUTF8Byte place inside) := by
  unfold bytes String.getUTF8Byte
  rw [Array.getElem?_toList]
  exact getElem?_pos text.toByteArray.data place.byteIdx inside

/-- The bytes of a text, found at the end of another one, start between two characters of it. -/
theorem isValid_of_bytes {text ending : String} {before : List UInt8}
    (split : before ++ bytes ending = bytes text) :
    String.Pos.Raw.IsValid text ⟨before.length⟩ := by
  rw [String.Pos.Raw.isValid_iff_isUTF8FirstByte]
  have size : before.length + (bytes ending).length = text.utf8ByteSize := by
    rw [← List.length_append, split, length_bytes]
  cases shape : bytes ending with
  | nil =>
      rw [shape] at size
      exact Or.inl (String.Pos.Raw.ext size)
  | cons byte more =>
      have inside : before.length < text.utf8ByteSize := by
        rw [← size, shape, List.length_cons]
        omega
      refine Or.inr ⟨inside, ?_⟩
      have found := getElem?_bytes text ⟨before.length⟩ inside
      rw [← split, List.getElem?_append_right (Nat.le_refl before.length), Nat.sub_self, shape]
        at found
      rw [← Option.some.inj found]
      exact isFirstByte_of_bytes shape

/-- Texts end alike by bytes as by characters. -/
theorem bytes_suffix_iff {text ending : String} :
    bytes ending <:+ bytes text ↔ ending.toList <:+ text.toList := by
  constructor
  · rintro ⟨before, split⟩
    obtain ⟨lead, tail, textEq, leadEnd⟩ :=
      String.Pos.Raw.isValid_iff_exists_append.mp (isValid_of_bytes split)
    have leadLength : before.length = (bytes lead).length := by
      rw [length_bytes]
      exact congrArg String.Pos.Raw.byteIdx leadEnd
    rw [textEq, bytes_append] at split
    have tailEq : ending = tail := bytes_injective (List.append_inj split leadLength).2
    rw [textEq, tailEq, String.toList_append]
    exact List.suffix_append _ _
  · intro isEnding
    obtain ⟨before, textEq⟩ := eq_append_of_suffix isEnding
    rw [textEq, bytes_append]
    exact List.suffix_append _ _

end RuleCompiler.Text
