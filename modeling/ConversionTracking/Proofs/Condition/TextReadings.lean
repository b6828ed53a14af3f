import ConversionTracking.Condition.Reading
import ConversionTracking.Proofs.Number.NearestDecimal
import ConversionTracking.Proofs.Number.Numeral

/-!
Texts read as numbers. A numeral with nothing but blanks around it is read as the number of double
precision nearest to what it spells, and no other text is a number. An information separator among the
blanks is the one fault.
-/

namespace ConversionTracking

namespace Numeral

theorem StandsIn.areNumeric {numeral : Numeral} {chars blanks : List Char}
    (stands : numeral.StandsIn chars blanks) :
    ∀ char ∈ chars, Unicode.isBlank char = true ∨ IsNumeric char := by
  obtain ⟨frontIsBlank, backIsBlank, writes⟩ := stands
  simp only [List.forall_mem_append]
  exact ⟨⟨fun char member => .inl (frontIsBlank char member),
    fun char member => .inr (writes.areNumeric char member)⟩,
    fun char member => .inl (backIsBlank char member)⟩

theorem read_eq_ok_none_iff_not_standsIn (text : String) :
    read text = .ok none ↔ ¬∃ numeral blanks, StandsIn numeral text.toList blanks := by
  rw [read_eq_ok_none_iff, Option.eq_none_iff_forall_ne_some]
  simp only [ne_eq, parse?_eq_some_iff, not_exists]

theorem read_of_other {text : String} {char : Char} (member : char ∈ text.toList)
    (notBlank : Unicode.isBlank char = false) (notNumeric : ¬IsNumeric char) :
    read text = .ok none := by
  rw [read_eq_ok_none_iff_not_standsIn]
  rintro ⟨numeral, blanks, stands⟩
  rcases stands.areNumeric char member with isBlank | isNumeric
  · exact Bool.false_ne_true (notBlank.symm.trans isBlank)
  · exact notNumeric isNumeric

end Numeral

namespace Value

/-- Just the numerals between blanks are numbers, each the nearest one to what it spells. Reading fails
just where one of the blanks is an information separator. -/
theorem toNumber_text (text : String) :
    ((∃ fault, (Value.text text).toNumber = .error fault) ↔ Numeral.IsRefused text) ∧
    ((Value.text text).toNumber = .ok none ↔
      ¬∃ numeral blanks, Numeral.StandsIn numeral text.toList blanks) ∧
    (∀ number, (Value.text text).toNumber = .ok (some number) ↔
      ∃ numeral blanks, Numeral.StandsIn numeral text.toList blanks ∧
        (∀ char ∈ blanks, ¬Unicode.IsSeparator char) ∧
        Binary64.IsNearestTo numeral.negative numeral.magnitude number) ∧
    ∀ char ∈ text.toList, Unicode.isBlank char = false → ¬Numeral.IsNumeric char →
      (Value.text text).toNumber = .ok none := by
  simp only [toNumber]
  refine ⟨?fails, Numeral.read_eq_ok_none_iff_not_standsIn text, fun number => ?nearest,
    fun char => Numeral.read_of_other⟩
  case fails =>
    simp only [Numeral.read_eq_error_iff]
    exact ⟨fun ⟨_, isRefused, _⟩ => isRefused, fun isRefused => ⟨_, isRefused, rfl⟩⟩
  case nearest =>
    simp only [Numeral.read_eq_ok_some_iff, Numeral.toBinary64_eq_iff]

theorem mixed_digits_read :
    (Value.text " -１٢.5e-1\n").toNumber = .ok (some (Numeral.toBinary64 ⟨true, 125, -2⟩)) ∧
    ('n' ∈ "inf".toList ∧ (Value.text "inf").toNumber = .ok none) ∧
    ('n' ∈ "nan".toList ∧ (Value.text "nan").toNumber = .ok none) ∧
    ('x' ∈ "0x10".toList ∧ (Value.text "0x10").toNumber = .ok none) ∧
    '_' ∈ "1_000".toList ∧ (Value.text "1_000").toNumber = .ok none := by
  have writes : Numeral.Writes "-１٢.5e-1".toList ⟨true, 125, -2⟩ :=
    (Numeral.ofChars?_eq_some_iff _ _).mp (by decide +kernel)
  have stands : Numeral.StandsIn ⟨true, 125, -2⟩ ([' '] ++ "-１٢.5e-1".toList ++ ['\n'])
      ([' '] ++ ['\n']) :=
    .mk (List.forall_mem_singleton.mpr rfl) (List.forall_mem_singleton.mpr rfl) writes
  have isText : " -１٢.5e-1\n".toList = [' '] ++ "-１٢.5e-1".toList ++ ['\n'] := by decide +kernel
  have noSeparator : ∀ char ∈ [' '] ++ ['\n'], ¬Unicode.IsSeparator char := by
    simp [Unicode.IsSeparator]
  rw [← isText] at stands
  refine ⟨((toNumber_text _).2.2.1 _).mpr ⟨_, _, stands, noSeparator,
      (Numeral.toBinary64_eq_iff _ _).mp rfl⟩,
    ⟨?_, (toNumber_text "inf").2.2.2 'n' ?_ ?_ ?_⟩, ⟨?_, (toNumber_text "nan").2.2.2 'n' ?_ ?_ ?_⟩,
    ⟨?_, (toNumber_text "0x10").2.2.2 'x' ?_ ?_ ?_⟩, ?_, (toNumber_text "1_000").2.2.2 '_' ?_ ?_ ?_⟩
    <;> decide +kernel

/-- A numeral after an information separator is refused, so that not every text has a reading. -/
theorem separated_one_not_read :
    ¬∀ text : String, ∃ reading, (Value.text text).toNumber = .ok reading := by
  intro isRead
  have fails : (Value.text "\x1c1").toNumber = .error (.notNumber "\x1c1") := by decide +kernel
  obtain ⟨reading, isReading⟩ := isRead "\x1c1"
  rw [fails] at isReading
  cases isReading

end Value

end ConversionTracking
