/-!
Texts in the order of their bytes. Texts are ordered by their code points, which is how the bytes of
their encodings are ordered too.
-/

namespace ConversionTracking

def utf8Bytes (text : String) : List UInt8 := text.toUTF8.data.toList

theorem utf8Bytes_eq (text : String) : utf8Bytes text = text.toList.flatMap String.utf8EncodeChar := by
  obtain ⟨letters, rfl⟩ : ∃ letters, text = String.ofList letters :=
    ⟨text.toList, String.ofList_toList.symm⟩
  rw [utf8Bytes, String.toUTF8, String.toByteArray_ofList, List.utf8Encode,
    List.toList_data_toByteArray, String.toList_ofList]

theorem encoded_nonempty (letter : Char) : String.utf8EncodeChar letter ≠ [] := by
  rw [← List.length_pos_iff, String.length_utf8EncodeChar]
  exact letter.utf8Size_pos

theorem encoded_lt_of_lt {first second : Char} (isBefore : first < second)
    (rest others : List UInt8) :
    String.utf8EncodeChar first ++ rest < String.utf8EncodeChar second ++ others := by
  rw [Char.lt_def, UInt32.lt_iff_toNat_lt] at isBefore
  have bounded : second.val.toNat < 0x110000 := by
    rcases second.valid with isLow | ⟨_, isHigh⟩
    · exact Nat.lt_trans isLow (by decide)
    · exact isHigh
  unfold String.utf8EncodeChar
  generalize first.val.toNat = code at isBefore
  generalize second.val.toNat = other at isBefore bounded
  have digits (number : Nat) :
      number / 4096 = number / 64 / 64 ∧ number / 262144 = number / 64 / 64 / 64 := by
    omega
  obtain ⟨codeTwice, codeThrice⟩ := digits code
  obtain ⟨otherTwice, otherThrice⟩ := digits other
  dsimp only
  repeat' split
  all_goals
    simp (disch := omega) only [List.cons_append, List.nil_append, List.cons_lt_cons_iff,
      UInt8.lt_iff_toNat_lt, ← UInt8.toNat_inj, UInt8.toNat_ofNat', Nat.mod_eq_of_lt]
    omega

theorem flatMap_encoded_lt {letters others : List Char} (isBefore : letters < others) :
    letters.flatMap String.utf8EncodeChar < others.flatMap String.utf8EncodeChar := by
  induction letters generalizing others with
  | nil =>
      cases others with
      | nil => exact absurd isBefore (List.lt_irrefl [])
      | cons letter rest =>
          have encoded := encoded_nonempty letter
          rw [List.flatMap_nil, List.flatMap_cons]
          generalize String.utf8EncodeChar letter = bytes at encoded
          cases bytes with
          | nil => exact absurd rfl encoded
          | cons byte bytes => exact List.nil_lt_cons byte _
  | cons letter rest ih =>
      cases others with
      | nil => exact absurd isBefore (List.not_lt_nil _)
      | cons other others =>
          rw [List.flatMap_cons, List.flatMap_cons]
          rcases List.cons_lt_cons_iff.mp isBefore with differ | ⟨rfl, restBefore⟩
          · exact encoded_lt_of_lt differ _ _
          · exact List.append_left_lt (ih restBefore)

/-- The order of the texts is the order of their bytes. -/
theorem lt_iff_utf8Bytes_lt (first second : String) :
    first < second ↔ utf8Bytes first < utf8Bytes second := by
  have preserved {first second : String} (isBefore : first < second) :
      utf8Bytes first < utf8Bytes second := by
    rw [utf8Bytes_eq, utf8Bytes_eq]
    exact flatMap_encoded_lt (String.lt_iff.mp isBefore)
  refine ⟨preserved, fun bytesBefore => ?_⟩
  rcases Std.lt_trichotomy first second with isBefore | rfl | isAfter
  · exact isBefore
  · exact absurd bytesBefore (List.lt_irrefl _)
  · exact absurd bytesBefore (List.lt_asymm (preserved isAfter))

end ConversionTracking
