import ConversionTracking.Number.Decimal
import ConversionTracking.Number.Shortest
import ConversionTracking.Proofs.Number.Numeral

/-!
Numbers as they are written: the text of a whole number spells it, and the text of every finite number
is a numeral.
-/

namespace ConversionTracking

namespace Unicode

theorem decimalValue?_of_isDigit {char : Char} (isDigit : char.isDigit = true) :
    decimalValue? char = some (char.toNat - '0'.toNat) := by
  have zero : '0'.toNat = 48 := rfl
  simp only [Char.isDigit, Bool.and_eq_true, decide_eq_true_eq] at isDigit
  have above : 48 ≤ char.toNat := isDigit.1
  have below : char.toNat ≤ 57 := isDigit.2
  have isFirst : decimalRanges.find? (fun range => range.1 ≤ char.toNat && char.toNat ≤ range.2) =
      some (0x30, 0x39) := by
    rw [decimalRanges, List.find?_cons_of_pos]
    simp only [Bool.and_eq_true, decide_eq_true_eq]
    omega
  rw [decimalValue?, isFirst, Option.map_some, Option.some.injEq]
  omega

end Unicode

namespace Numeral

def AreDigits (chars : List Char) : Prop := ∀ char ∈ chars, char.isDigit = true

def asciiValues (digits : List Char) : List Nat := digits.map fun char => char.toNat - '0'.toNat

theorem spells_ascii {digits : List Char} (areDigits : AreDigits digits) :
    Spells digits (asciiValues digits) := by
  rw [asciiValues, Spells, List.forall₂_map_right_iff, List.forall₂_same]
  exact fun char member => Unicode.decimalValue?_of_isDigit (areDigits char member)

theorem asciiValues_ne_nil {digits : List Char} (given : digits ≠ []) : asciiValues digits ≠ [] :=
  fun isEmpty => given (List.map_eq_nil_iff.mp isEmpty)

theorem areDigits_decimalDigits (value : Nat) : AreDigits (decimalDigits value) :=
  fun _ member => Nat.isDigit_of_mem_toDigits (by decide) (by decide) member

theorem decimalDigits_ne_nil (value : Nat) : decimalDigits value ≠ [] := Nat.toDigits_ne_nil

def padded (width value : Nat) : List Char :=
  List.replicate (width - (decimalDigits value).length) '0' ++ decimalDigits value

theorem areDigits_zeros (count : Nat) : AreDigits (List.replicate count '0') := by
  intro char member
  rw [List.eq_of_mem_replicate member]
  rfl

theorem AreDigits.append {first second : List Char} (firstAre : AreDigits first)
    (secondAre : AreDigits second) : AreDigits (first ++ second) :=
  List.forall_mem_append.mpr ⟨firstAre, secondAre⟩

theorem areDigits_padded (width value : Nat) : AreDigits (padded width value) :=
  (areDigits_zeros _).append (areDigits_decimalDigits value)

theorem padded_ne_nil (width value : Nat) : padded width value ≠ [] :=
  List.append_ne_nil_of_right_ne_nil _ (decimalDigits_ne_nil value)

theorem ofDigitValues_decimalDigits (value : Nat) :
    ofDigitValues (asciiValues (decimalDigits value)) = value := by
  have readBack : Nat.ofDigitChars 10 (decimalDigits value) 0 = value :=
    Nat.ofDigitChars_toDigits (by decide) (by decide)
  rw [Nat.ofDigitChars_eq_foldl] at readBack
  rw [ofDigitValues, asciiValues, List.foldl_map]
  simpa only [Nat.mul_comm] using readBack

theorem writes_intText (value : Int) :
    Writes (intText value).toList ⟨value < 0, value.natAbs, 0⟩ := by
  have magnitude : IsMagnitude (decimalText value.natAbs).toList value.natAbs 0 := by
    have isWhole := spells_ascii (areDigits_decimalDigits value.natAbs)
    have given := asciiValues_ne_nil (decimalDigits_ne_nil value.natAbs)
    have isMagnitude := IsMagnitude.mk isWhole .absent (.inl given) .absent
    simpa [decimalText, ofDigitValues_decimalDigits] using isMagnitude
  unfold intText
  split
  · rename_i isNegative
    rw [String.toList_append, decide_eq_true isNegative]
    exact .mk .minus magnitude
  · rename_i notNegative
    rw [decide_eq_false notNegative]
    exact .mk .absent magnitude

def IsNumeral (chars : List Char) : Prop := ∃ numeral, Writes chars numeral

def IsUnsigned (chars : List Char) : Prop := ∃ digits exponent, IsMagnitude chars digits exponent

def IsPower (chars : List Char) : Prop := ∃ exponent, IsExponent chars exponent

theorem isPower_nil : IsPower [] := ⟨0, .absent⟩

theorem isPower_marked {mark : Char} (isMark : mark = 'e' ∨ mark = 'E') (isNegative : Prop)
    [Decidable isNegative] {digits : List Char} (areDigits : AreDigits digits) (given : digits ≠ []) :
    IsPower (mark :: ((if isNegative then "-" else "+").toList ++ digits)) := by
  have spelled := spells_ascii areDigits
  have valuesGiven := asciiValues_ne_nil given
  split
  · exact ⟨_, .marked isMark .minus spelled valuesGiven⟩
  · exact ⟨_, .marked isMark .plus spelled valuesGiven⟩

theorem isUnsigned_whole {whole power : List Char} (areDigits : AreDigits whole) (given : whole ≠ [])
    (isPower : IsPower power) : IsUnsigned (whole ++ power) := by
  obtain ⟨exponent, isExponent⟩ := isPower
  exact ⟨_, _, .mk (spells_ascii areDigits) .absent (.inl (asciiValues_ne_nil given)) isExponent⟩

theorem isUnsigned_pointed {whole fraction power : List Char} (wholeDigits : AreDigits whole)
    (fractionDigits : AreDigits fraction) (given : whole ++ fraction ≠ []) (isPower : IsPower power) :
    IsUnsigned (whole ++ '.' :: fraction ++ power) := by
  obtain ⟨exponent, isExponent⟩ := isPower
  have valuesGiven : asciiValues whole ≠ [] ∨ asciiValues fraction ≠ [] := by
    by_contra noneGiven
    simp only [not_or, not_not, asciiValues, List.map_eq_nil_iff] at noneGiven
    exact given (List.append_eq_nil_iff.mpr noneGiven)
  rw [List.append_assoc]
  exact ⟨_, _, .mk (spells_ascii wholeDigits) (.point (spells_ascii fractionDigits)) valuesGiven
    isExponent⟩

theorem isUnsigned_split {digits power : List Char} (areDigits : AreDigits digits)
    (given : digits ≠ []) (place : Nat) (isPower : IsPower power) :
    IsUnsigned (digits.take place ++ '.' :: digits.drop place ++ power) := by
  refine isUnsigned_pointed (fun char member => areDigits char (List.mem_of_mem_take member))
    (fun char member => areDigits char (List.mem_of_mem_drop member)) ?_ isPower
  rwa [List.take_append_drop]

theorem IsUnsigned.signed {text : String} (isUnsigned : IsUnsigned text.toList) (negative : Bool) :
    IsNumeral ((if negative then "-" else "") ++ text).toList := by
  obtain ⟨digits, exponent, isMagnitude⟩ := isUnsigned
  rw [String.toList_append]
  cases negative with
  | true => exact ⟨_, .mk .minus isMagnitude⟩
  | false => exact ⟨_, .mk .absent isMagnitude⟩

theorem isNumeral_intText (value : Int) : IsNumeral (intText value).toList :=
  ⟨_, writes_intText value⟩

theorem isUnsigned_positional (number : DecimalDigits) : IsUnsigned number.positional.toList := by
  unfold DecimalDigits.positional
  dsimp only
  split
  · have wholeDigits := (areDigits_decimalDigits number.digits).append
      (areDigits_zeros number.exponent.toNat)
    have isUnsigned := isUnsigned_pointed wholeDigits (areDigits_zeros 1) (by simp) isPower_nil
    simpa using isUnsigned
  · have padded := (areDigits_zeros (number.exponent.natAbs + 1 -
      (decimalDigits number.digits).length)).append (areDigits_decimalDigits number.digits)
    have given := List.append_ne_nil_of_right_ne_nil
      (List.replicate (number.exponent.natAbs + 1 - (decimalDigits number.digits).length) '0')
      (decimalDigits_ne_nil number.digits)
    have isUnsigned := fun place => isUnsigned_split padded given place isPower_nil
    simpa using isUnsigned _

theorem isUnsigned_scientific (point : Bool) (number : DecimalDigits) :
    IsUnsigned (number.scientific point).toList := by
  have areDigits := areDigits_decimalDigits number.digits
  have given := decimalDigits_ne_nil number.digits
  have isPower := isPower_marked (Or.inl rfl) (number.exponent +
    ((decimalDigits number.digits).length : Int) - 1 < 0) (areDigits_padded 2 _) (padded_ne_nil 2
    (number.exponent + ((decimalDigits number.digits).length : Int) - 1).natAbs)
  unfold DecimalDigits.scientific
  dsimp only
  generalize number.exponent + ((decimalDigits number.digits).length : Int) - 1 = power at isPower ⊢
  cases digits : decimalDigits number.digits with
  | nil => exact absurd digits given
  | cons first rest =>
      rw [digits] at areDigits given
      cases rest with
      | nil =>
          cases point with
          | true =>
              have isUnsigned := isUnsigned_pointed areDigits (areDigits_zeros 1) (by simp) isPower
              simpa [padded, paddedText] using isUnsigned
          | false => simpa [padded, paddedText] using isUnsigned_whole areDigits given isPower
      | cons second rest =>
          have isUnsigned := isUnsigned_split areDigits given 1 isPower
          simpa [padded, paddedText] using isUnsigned

theorem isUnsigned_pointedText {digits power : List Char} (areDigits : AreDigits digits)
    (given : digits ≠ []) (point : Int) (isPower : IsPower power) :
    IsUnsigned ((Decimal.pointedText digits point).toList ++ power) := by
  unfold Decimal.pointedText
  dsimp only
  split
  · have fraction := (areDigits_zeros point.natAbs).append areDigits
    have isUnsigned := isUnsigned_pointed (areDigits_zeros 1) fraction (by simp) isPower
    simpa using isUnsigned
  · split
    · have whole := areDigits.append (areDigits_zeros (point - digits.length).toNat)
      have isUnsigned := isUnsigned_whole whole (List.append_ne_nil_of_left_ne_nil given _) isPower
      simpa using isUnsigned
    · have isUnsigned := isUnsigned_split areDigits given point.toNat isPower
      simpa using isUnsigned

theorem isUnsigned_finiteText (coefficient : Nat) (exponent : Int) :
    IsUnsigned (Decimal.finiteText coefficient exponent).toList := by
  have areDigits := areDigits_decimalDigits coefficient
  have given := decimalDigits_ne_nil coefficient
  unfold Decimal.finiteText
  dsimp only
  generalize exponent + ((decimalDigits coefficient).length : Int) = left
  generalize (if exponent ≤ 0 ∧ left > -6 then left else 1) = point
  split
  · have isUnsigned := isUnsigned_pointedText areDigits given point isPower_nil
    rwa [List.append_nil] at isUnsigned
  · have isPower := isPower_marked (Or.inr rfl) (left - point < 0)
      (areDigits_decimalDigits (left - point).natAbs) (decimalDigits_ne_nil _)
    have isUnsigned := isUnsigned_pointedText areDigits given point isPower
    simpa [decimalText] using isUnsigned

theorem isNumeral_binary64 (negative : Bool) (units : Nat) (inRange : units < Binary64.unitsLimit) :
    IsNumeral (Binary64.finite negative units inRange).text.toList := by
  have signed : ∀ {body : String}, IsUnsigned body.toList →
      IsNumeral (if negative then "-" ++ body else body).toList := by
    intro body isUnsigned
    have isNumeral := isUnsigned.signed negative
    cases negative with
    | true => exact isNumeral
    | false => rwa [if_neg Bool.false_ne_true, String.empty_append] at isNumeral
  unfold Binary64.text
  dsimp only
  apply signed
  split
  · have isUnsigned := isUnsigned_pointed (areDigits_zeros 1) (areDigits_zeros 1) (by simp) isPower_nil
    simpa using isUnsigned
  · split
    · exact isUnsigned_positional _
    · exact isUnsigned_scientific _ _

theorem isNumeral_decimal (negative : Bool) (coefficient : Nat) (exponent : Int) :
    IsNumeral (Decimal.finite negative coefficient exponent).text.toList :=
  (isUnsigned_finiteText coefficient exponent).signed negative

end Numeral

end ConversionTracking
