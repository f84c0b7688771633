/-!
The order of texts. Texts are compared character by character; this is the order of their bytes in
UTF-8, because the encoding of a greater character is greater at the first byte that differs.
-/

namespace RuleCompiler.Text

def bytes (text : String) : List UInt8 :=
  text.toByteArray.data.toList

theorem bytes_eq_flatMap (text : String) :
    bytes text = text.toList.flatMap String.utf8EncodeChar := by
  unfold bytes
  rw [← String.utf8Encode_toList, List.utf8Encode, List.data_toByteArray]

/-- A first byte that is no greater leaves the decision to the rest only where it is equal. -/
theorem cons_lt_cons {left right : Nat} (small : right < 256) (noGreater : left ≤ right)
    {leftRest rightRest : List UInt8} (onward : left = right → leftRest < rightRest) :
    UInt8.ofNat left :: leftRest < UInt8.ofNat right :: rightRest := by
  by_cases same : left = right
  · rw [same]
    exact List.Lex.cons (onward same)
  · apply List.Lex.rel
    rw [UInt8.lt_iff_toNat_lt, UInt8.toNat_ofNat', UInt8.toNat_ofNat']
    omega

/-- The encoding of the greater character is the greater one, whatever follows either. -/
theorem encoding_lt {c d : Char} (before : c < d) (left right : List UInt8) :
    String.utf8EncodeChar c ++ left < String.utf8EncodeChar d ++ right := by
  have codes : c.val.toNat < d.val.toNat := before
  have bounded : d.val.toNat < 0x110000 := by
    rcases d.valid with low | high
    · exact Nat.lt_trans low (by decide)
    · exact high.2
  simp only [String.utf8EncodeChar]
  -- A longer encoding starts with a greater byte; encodings of one length differ in some digit.
  repeat' split
  all_goals first
    | omega
    | exact cons_lt_cons (by omega) (by omega) fun same => absurd same (by omega)
    | skip
  · refine cons_lt_cons (by omega) (by omega) fun _ => ?_
    exact cons_lt_cons (by omega) (by omega) fun same => absurd same (by omega)
  · refine cons_lt_cons (by omega) (by omega) fun _ => ?_
    refine cons_lt_cons (by omega) (by omega) fun _ => ?_
    exact cons_lt_cons (by omega) (by omega) fun same => absurd same (by omega)
  · refine cons_lt_cons (by omega) (by omega) fun _ => ?_
    refine cons_lt_cons (by omega) (by omega) fun _ => ?_
    refine cons_lt_cons (by omega) (by omega) fun _ => ?_
    exact cons_lt_cons (by omega) (by omega) fun same => absurd same (by omega)

theorem flatMap_encoding_lt {first second : List Char} (before : first < second) :
    first.flatMap String.utf8EncodeChar < second.flatMap String.utf8EncodeChar := by
  induction before with
  | @nil c rest =>
      obtain ⟨byte, others, shape⟩ :=
        List.exists_cons_of_ne_nil (String.utf8EncodeChar_ne_nil (c := c))
      rw [List.flatMap_cons, shape]
      exact List.Lex.nil
  | @cons c rest others _ ih =>
      rw [List.flatMap_cons, List.flatMap_cons]
      exact List.append_left_lt ih
  | @rel c rest d others smaller =>
      rw [List.flatMap_cons, List.flatMap_cons]
      exact encoding_lt smaller _ _

/-- The order of texts is the order of their bytes. -/
theorem lt_iff_bytes_lt (first second : String) : first < second ↔ bytes first < bytes second := by
  have forward : ∀ {left right : String}, left < right → bytes left < bytes right := by
    intro left right before
    rw [bytes_eq_flatMap, bytes_eq_flatMap]
    exact flatMap_encoding_lt before
  constructor
  · exact forward
  · intro before
    rcases Std.lt_trichotomy first second with smaller | equal | greater
    · exact smaller
    · rw [equal] at before
      exact absurd before (List.lt_irrefl _)
    · exact absurd (forward greater) (List.lt_asymm before)

end RuleCompiler.Text
