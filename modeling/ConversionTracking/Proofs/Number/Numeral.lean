import ConversionTracking.Number.Numeral
import Mathlib.Data.List.Forall2
import Mathlib.Data.List.TakeWhile

/-!
The grammar of numerals: an optional sign, decimal digits with at most one point, and an optional
exponent. Just the texts of this grammar between blanks are read as numbers, unless one of the blanks
is an information separator.
-/

namespace ConversionTracking

namespace Unicode

/-- A control character that separates records: a blank, but no white space. -/
def IsSeparator (char : Char) : Prop := 0x1C ≤ char.toNat ∧ char.toNat ≤ 0x1F

theorem isWhiteSpace_iff (char : Char) :
    isWhiteSpace char = true ↔ isBlank char = true ∧ ¬IsSeparator char := by
  simp only [isWhiteSpace, IsSeparator, Bool.and_eq_true, Bool.not_eq_true', decide_eq_false_iff_not,
    Bool.and_eq_false_iff, not_and_or]

theorem isBlank_of_isSeparator {char : Char} (isSeparator : IsSeparator char) :
    isBlank char = true := by
  have separators : (0x1C, 0x20) ∈ blankRanges := by decide
  refine List.any_eq_true.mpr ⟨_, separators, ?_⟩
  obtain ⟨above, below⟩ := isSeparator
  simp only [Bool.and_eq_true, decide_eq_true_eq]
  omega

theorem isBlank_eq_false {table : List (Nat × Nat)}
    (apart : ∀ blanks ∈ blankRanges, ∀ range ∈ table, blanks.2 < range.1 ∨ range.2 < blanks.1)
    {char : Char} {range : Nat × Nat} (isMember : range ∈ table)
    (inRange : (range.1 ≤ char.toNat && char.toNat ≤ range.2) = true) : isBlank char = false := by
  rw [← Bool.not_eq_true, isBlank, inRanges, List.any_eq_true]
  rintro ⟨blanks, isBlanks, inBlanks⟩
  have isApart := apart blanks isBlanks range isMember
  simp only [Bool.and_eq_true, decide_eq_true_eq] at inRange inBlanks
  omega

theorem isBlank_of_isDecimal {char : Char} {value : Nat}
    (isDigit : decimalValue? char = some value) : isBlank char = false := by
  obtain ⟨digits, found, _⟩ := Option.map_eq_some_iff.mp isDigit
  have inRange := List.find?_some found
  exact isBlank_eq_false (by decide) (List.mem_of_find?_eq_some found) inRange

theorem isDigit_of_isDecimal {char : Char} (isDecimal : isDecimal char = true) : isDigit char = true := by
  rw [isDigit, isDecimal]
  rfl

theorem isBlank_of_isDigit {char : Char} (isDigit : isDigit char = true) : isBlank char = false := by
  rw [Unicode.isDigit, Bool.or_eq_true] at isDigit
  rcases isDigit with isDecimal | isOther
  · obtain ⟨value, isValue⟩ := Option.isSome_iff_exists.mp isDecimal
    exact isBlank_of_isDecimal isValue
  · obtain ⟨range, isMember, inRange⟩ := List.any_eq_true.mp isOther
    exact isBlank_eq_false (by decide) isMember inRange

theorem trimEnds_spec (drop : Char → Bool) (chars : List Char) :
    ∃ front back, chars = front ++ trimEnds drop chars ++ back ∧
      (∀ char ∈ front, drop char = true) ∧ ∀ char ∈ back, drop char = true := by
  let rest := chars.dropWhile drop
  refine ⟨chars.takeWhile drop, (rest.reverse.takeWhile drop).reverse, ?_, ?_, ?_⟩
  · have whole := List.takeWhile_append_dropWhile (p := drop) (l := chars)
    have reversed := List.takeWhile_append_dropWhile (p := drop) (l := rest.reverse)
    have restored := congrArg List.reverse reversed
    rw [List.reverse_append, List.reverse_reverse] at restored
    rw [List.append_assoc, trimEnds, restored, whole]
  · exact fun char member => List.mem_takeWhile_imp member
  · exact fun char member => List.mem_takeWhile_imp (List.mem_reverse.mp member)

theorem trimEnds_between {drop : Char → Bool} {front middle back : List Char}
    (frontGoes : ∀ char ∈ front, drop char = true) (backGoes : ∀ char ∈ back, drop char = true)
    (middleStays : ∀ char ∈ middle, drop char = false) (given : middle ≠ []) :
    trimEnds drop (front ++ middle ++ back) = middle := by
  obtain ⟨first, rest, rfl⟩ := List.exists_cons_of_ne_nil given
  have firstStays : ¬drop first = true := by
    simp [middleStays first List.mem_cons_self]
  have lastStays : ((first :: rest).reverse).dropWhile drop = (first :: rest).reverse := by
    refine List.dropWhile_eq_self_iff.mpr fun nonempty => ?_
    rw [Bool.not_eq_true]
    exact middleStays _ (List.mem_reverse.mp (List.getElem_mem nonempty))
  rw [trimEnds, List.append_assoc, List.dropWhile_append_of_pos frontGoes, List.cons_append,
    List.dropWhile_cons_of_neg firstStays, ← List.cons_append, List.reverse_append,
    List.dropWhile_append_of_pos fun char member => backGoes char (List.mem_reverse.mp member),
    lastStays, List.reverse_reverse]

end Unicode

namespace Numeral

abbrev Spells (digits : List Char) (values : List Nat) : Prop :=
  List.Forall₂ (fun char value => Unicode.decimalValue? char = some value) digits values

theorem Spells.unique {digits : List Char} {first second : List Nat} (isFirst : Spells digits first)
    (isSecond : Spells digits second) : first = second :=
  Relator.RightUnique.forall₂ (fun _ _ _ isValue isOther => Option.some.inj (isValue.symm.trans isOther))
    isFirst isSecond

theorem Spells.isDecimal {digits : List Char} {values : List Nat} (spelled : Spells digits values) :
    ∀ char ∈ digits, Unicode.isDecimal char = true := by
  induction spelled with
  | nil => exact fun _ member => absurd member List.not_mem_nil
  | cons isValue _ ih =>
      exact List.forall_mem_cons.mpr ⟨Option.isSome_iff_exists.mpr ⟨_, isValue⟩, ih⟩

theorem exists_spells {digits : List Char}
    (areDecimal : ∀ char ∈ digits, Unicode.isDecimal char = true) : ∃ values, Spells digits values := by
  refine ⟨digits.map fun char => (Unicode.decimalValue? char).getD 0, ?_⟩
  rw [Spells, List.forall₂_map_right_iff, List.forall₂_same]
  intro char member
  obtain ⟨value, isValue⟩ := Option.isSome_iff_exists.mp (areDecimal char member)
  rw [isValue]
  rfl

inductive IsSign : List Char → Bool → Prop where
  | absent : IsSign [] false
  | plus : IsSign ['+'] false
  | minus : IsSign ['-'] true

inductive IsFraction : List Char → List Nat → Prop where
  | absent : IsFraction [] []
  | point {digits : List Char} {values : List Nat} (spelled : Spells digits values) :
      IsFraction ('.' :: digits) values

inductive IsExponent : List Char → Int → Prop where
  | absent : IsExponent [] 0
  | marked {mark : Char} {sign digits : List Char} {negative : Bool} {values : List Nat}
      (isMark : mark = 'e' ∨ mark = 'E') (isSign : IsSign sign negative)
      (spelled : Spells digits values) (given : values ≠ []) :
      IsExponent (mark :: (sign ++ digits))
        (if negative then -(ofDigitValues values : Int) else ofDigitValues values)

inductive IsMagnitude : List Char → Nat → Int → Prop where
  | mk {whole fraction power : List Char} {wholeValues fractionValues : List Nat} {exponent : Int}
      (isWhole : Spells whole wholeValues) (isFraction : IsFraction fraction fractionValues)
      (given : wholeValues ≠ [] ∨ fractionValues ≠ []) (isPower : IsExponent power exponent) :
      IsMagnitude (whole ++ (fraction ++ power)) (ofDigitValues (wholeValues ++ fractionValues))
        (exponent - fractionValues.length)

inductive Writes : List Char → Numeral → Prop where
  | mk {sign magnitude : List Char} {negative : Bool} {digits : Nat} {exponent : Int}
      (isSign : IsSign sign negative) (isMagnitude : IsMagnitude magnitude digits exponent) :
      Writes (sign ++ magnitude) ⟨negative, digits, exponent⟩

def StartsWithoutDigit (chars : List Char) : Prop :=
  ∀ char ∈ chars.head?, Unicode.decimalValue? char = none

theorem exists_of_splitDigits {chars rest : List Char} {values : List Nat}
    (split : splitDigits chars = (values, rest)) :
    ∃ digits, chars = digits ++ rest ∧ Spells digits values := by
  induction chars generalizing values with
  | nil =>
      obtain ⟨rfl, rfl⟩ := Prod.mk.inj split
      exact ⟨[], rfl, .nil⟩
  | cons char tail ih =>
      rw [splitDigits] at split
      cases value : Unicode.decimalValue? char with
      | none =>
          rw [value] at split
          obtain ⟨rfl, rfl⟩ := Prod.mk.inj split
          exact ⟨[], rfl, .nil⟩
      | some digit =>
          rw [value] at split
          obtain ⟨rfl, rfl⟩ := Prod.mk.inj split
          obtain ⟨digits, isTail, spelled⟩ := ih rfl
          exact ⟨char :: digits, congrArg (char :: ·) isTail, .cons value spelled⟩

theorem splitDigits_append {digits rest : List Char} {values : List Nat}
    (spelled : Spells digits values) (ends : StartsWithoutDigit rest) :
    splitDigits (digits ++ rest) = (values, rest) := by
  induction spelled with
  | nil =>
      cases rest with
      | nil => rfl
      | cons char rest =>
          have isOther := ends char rfl
          rw [List.nil_append, splitDigits, isOther]
  | cons isDigit _ ih => rw [List.cons_append, splitDigits, isDigit, ih]

theorem exists_of_splitSign {chars rest : List Char} {negative : Bool}
    (split : splitSign chars = (negative, rest)) :
    ∃ sign, chars = sign ++ rest ∧ IsSign sign negative := by
  unfold splitSign at split
  split at split <;> obtain ⟨rfl, rfl⟩ := Prod.mk.inj split
  · exact ⟨['-'], rfl, .minus⟩
  · exact ⟨['+'], rfl, .plus⟩
  · exact ⟨[], rfl, .absent⟩

theorem splitSign_append {sign rest : List Char} {negative : Bool} (isSign : IsSign sign negative)
    (noSign : ∀ char ∈ rest.head?, char ≠ '-' ∧ char ≠ '+') :
    splitSign (sign ++ rest) = (negative, rest) := by
  cases isSign with
  | absent =>
      rw [List.nil_append]
      unfold splitSign
      split
      · exact absurd rfl (noSign _ rfl).1
      · exact absurd rfl (noSign _ rfl).2
      · rfl
  | plus => rfl
  | minus => rfl

theorem exists_of_splitFraction {chars rest : List Char} {values : List Nat}
    (split : splitFraction chars = (values, rest)) :
    ∃ fraction, chars = fraction ++ rest ∧ IsFraction fraction values := by
  unfold splitFraction at split
  split at split
  · obtain ⟨digits, isRest, spelled⟩ := exists_of_splitDigits split
    exact ⟨'.' :: digits, congrArg ('.' :: ·) isRest, .point spelled⟩
  · obtain ⟨rfl, rfl⟩ := Prod.mk.inj split
    exact ⟨[], rfl, .absent⟩

theorem splitFraction_append {fraction rest : List Char} {values : List Nat}
    (isFraction : IsFraction fraction values) (ends : StartsWithoutDigit rest)
    (noPoint : '.' ∉ rest.head?) : splitFraction (fraction ++ rest) = (values, rest) := by
  cases isFraction with
  | absent =>
      rw [List.nil_append]
      unfold splitFraction
      split
      · exact absurd rfl noPoint
      · rfl
  | point spelled =>
      rw [List.cons_append, splitFraction]
      exact splitDigits_append spelled ends

theorem decimalValue?_ne {char other : Char} {value : Nat}
    (isDigit : Unicode.decimalValue? char = some value)
    (isOther : Unicode.decimalValue? other = none) : char ≠ other := by
  rintro rfl
  exact Option.some_ne_none value (isDigit.symm.trans isOther)

theorem Spells.noSign {digits rest : List Char} {values : List Nat} (spelled : Spells digits values)
    (restHasNone : ∀ char ∈ rest.head?, char ≠ '-' ∧ char ≠ '+') :
    ∀ char ∈ (digits ++ rest).head?, char ≠ '-' ∧ char ≠ '+' := by
  cases spelled with
  | nil => exact restHasNone
  | cons isDigit _ =>
      rintro char ⟨⟩
      exact ⟨decimalValue?_ne isDigit (by decide), decimalValue?_ne isDigit (by decide)⟩

theorem exponent?_eq_some_iff (chars : List Char) (exponent : Int) :
    exponent? chars = some exponent ↔ IsExponent chars exponent := by
  constructor
  · intro isExponent
    unfold exponent? at isExponent
    split at isExponent
    · obtain rfl := Option.some.inj isExponent
      exact .absent
    · rename_i mark rest
      rw [Option.ite_none_right_eq_some] at isExponent
      obtain ⟨isMark, isExponent⟩ := isExponent
      rcases signSplit : splitSign rest with ⟨negative, afterSign⟩
      rw [signSplit] at isExponent
      dsimp only at isExponent
      split at isExponent
      · contradiction
      · rename_i values given digitSplit
        obtain rfl := Option.some.inj isExponent
        obtain ⟨sign, rfl, isSign⟩ := exists_of_splitSign signSplit
        obtain ⟨digits, rfl, spelled⟩ := exists_of_splitDigits digitSplit
        rw [List.append_nil]
        exact .marked isMark isSign spelled given
      · contradiction
  · intro isExponent
    cases isExponent with
    | absent => rfl
    | @marked mark sign digits negative values isMark isSign spelled given =>
        have noSign : ∀ char ∈ digits.head?, char ≠ '-' ∧ char ≠ '+' := by
          have nothing : ∀ char ∈ ([] : List Char).head?, char ≠ '-' ∧ char ≠ '+' := by simp
          have first := spelled.noSign nothing
          rwa [List.append_nil] at first
        have split : splitDigits digits = (values, []) := by
          have ends : StartsWithoutDigit [] := by simp [StartsWithoutDigit]
          have all := splitDigits_append spelled ends
          rwa [List.append_nil] at all
        obtain ⟨value, rest, rfl⟩ := List.exists_cons_of_ne_nil given
        rw [exponent?, if_pos isMark, splitSign_append isSign noSign]
        dsimp only
        rw [split]

theorem IsExponent.head {chars : List Char} {exponent : Int} (isExponent : IsExponent chars exponent) :
    ∀ char ∈ chars.head?, char = 'e' ∨ char = 'E' := by
  cases isExponent with
  | absent => exact fun char isFirst => absurd isFirst (Option.not_mem_none char)
  | marked isMark _ _ _ =>
      rintro char ⟨⟩
      exact isMark

theorem IsFraction.head {fraction rest : List Char} {values : List Nat}
    (isFraction : IsFraction fraction values) :
    ∀ char ∈ (fraction ++ rest).head?, char = '.' ∨ char ∈ rest.head? := by
  cases isFraction with
  | absent => exact fun char isFirst => Or.inr isFirst
  | point _ =>
      rintro char ⟨⟩
      exact Or.inl rfl

/-- The texts that are read as numerals are those of the grammar. -/
theorem ofChars?_eq_some_iff (chars : List Char) (numeral : Numeral) :
    ofChars? chars = some numeral ↔ Writes chars numeral := by
  constructor
  · intro isNumeral
    rcases signSplit : splitSign chars with ⟨negative, body⟩
    rcases wholeSplit : splitDigits body with ⟨wholeValues, afterWhole⟩
    rcases fractionSplit : splitFraction afterWhole with ⟨fractionValues, afterFraction⟩
    simp only [ofChars?, signSplit, wholeSplit, fractionSplit, Option.ite_none_left_eq_some,
      Option.map_eq_some_iff] at isNumeral
    obtain ⟨given, exponent, isExponent, rfl⟩ := isNumeral
    obtain ⟨sign, rfl, isSign⟩ := exists_of_splitSign signSplit
    obtain ⟨whole, rfl, isWhole⟩ := exists_of_splitDigits wholeSplit
    obtain ⟨fraction, rfl, isFraction⟩ := exists_of_splitFraction fractionSplit
    refine .mk isSign (.mk isWhole isFraction ?_ ((exponent?_eq_some_iff _ _).mp isExponent))
    simpa [or_iff_not_imp_left] using given
  · rintro ⟨isSign, @⟨whole, fraction, power, wholeValues, fractionValues, exponent, isWhole,
      isFraction, given, isPower⟩⟩
    have powerHead : ∀ char ∈ power.head?, Unicode.decimalValue? char = none ∧ char ≠ '.' ∧
        char ≠ '-' ∧ char ≠ '+' := by
      intro char isFirst
      rcases isPower.head char isFirst with rfl | rfl <;> decide
    have fractionHead : ∀ char ∈ (fraction ++ power).head?, Unicode.decimalValue? char = none ∧
        char ≠ '-' ∧ char ≠ '+' := by
      intro char isFirst
      rcases isFraction.head char isFirst with rfl | isFirst
      · decide
      · exact ⟨(powerHead char isFirst).1, (powerHead char isFirst).2.2⟩
    have noSign := isWhole.noSign fun char isFirst => (fractionHead char isFirst).2
    have noPoint : '.' ∉ power.head? := fun isFirst => (powerHead _ isFirst).2.1 rfl
    simp only [ofChars?, splitSign_append isSign noSign,
      splitDigits_append isWhole fun char isFirst => (fractionHead char isFirst).1,
      splitFraction_append isFraction (fun char isFirst => (powerHead char isFirst).1) noPoint,
      (exponent?_eq_some_iff _ _).mpr isPower, Option.map_some, Option.ite_none_left_eq_some]
    exact ⟨by simpa [or_iff_not_imp_left] using given, trivial⟩

def IsNumeric (char : Char) : Prop :=
  Unicode.isDecimal char = true ∨ char ∈ ['+', '-', '.', 'e', 'E']

instance (char : Char) : Decidable (IsNumeric char) :=
  inferInstanceAs (Decidable (Unicode.isDecimal char = true ∨ char ∈ ['+', '-', '.', 'e', 'E']))

theorem IsNumeric.notBlank {char : Char} (isNumeric : IsNumeric char) :
    Unicode.isBlank char = false := by
  rcases isNumeric with isDecimal | isMark
  · obtain ⟨value, isValue⟩ := Option.isSome_iff_exists.mp isDecimal
    exact Unicode.isBlank_of_isDecimal isValue
  · simp only [List.mem_cons, List.not_mem_nil, or_false] at isMark
    rcases isMark with rfl | rfl | rfl | rfl | rfl <;> rfl

theorem Spells.areNumeric {digits : List Char} {values : List Nat} (spelled : Spells digits values) :
    ∀ char ∈ digits, IsNumeric char :=
  fun char member => .inl (spelled.isDecimal char member)

theorem IsSign.areNumeric {sign : List Char} {negative : Bool} (isSign : IsSign sign negative) :
    ∀ char ∈ sign, IsNumeric char := by
  cases isSign with
  | absent => exact fun _ member => absurd member List.not_mem_nil
  | plus | minus => exact List.forall_mem_singleton.mpr (.inr (by decide))

theorem IsFraction.areNumeric {fraction : List Char} {values : List Nat}
    (isFraction : IsFraction fraction values) : ∀ char ∈ fraction, IsNumeric char := by
  cases isFraction with
  | absent => exact fun _ member => absurd member List.not_mem_nil
  | point spelled => exact List.forall_mem_cons.mpr ⟨by decide, spelled.areNumeric⟩

theorem IsExponent.areNumeric {power : List Char} {exponent : Int}
    (isExponent : IsExponent power exponent) : ∀ char ∈ power, IsNumeric char := by
  cases isExponent with
  | absent => exact fun _ member => absurd member List.not_mem_nil
  | marked isMark isSign spelled _ =>
      refine List.forall_mem_cons.mpr ⟨?_, List.forall_mem_append.mpr
        ⟨isSign.areNumeric, spelled.areNumeric⟩⟩
      rcases isMark with rfl | rfl <;> decide

theorem IsMagnitude.areNumeric {chars : List Char} {digits : Nat} {exponent : Int}
    (isMagnitude : IsMagnitude chars digits exponent) : ∀ char ∈ chars, IsNumeric char := by
  obtain ⟨isWhole, isFraction, _, isPower⟩ := isMagnitude
  simp only [List.forall_mem_append]
  exact ⟨isWhole.areNumeric, isFraction.areNumeric, isPower.areNumeric⟩

theorem Writes.areNumeric {chars : List Char} {numeral : Numeral} (writes : Writes chars numeral) :
    ∀ char ∈ chars, IsNumeric char := by
  obtain ⟨isSign, isMagnitude⟩ := writes
  exact List.forall_mem_append.mpr ⟨isSign.areNumeric, isMagnitude.areNumeric⟩

theorem Writes.notBlank {chars : List Char} {numeral : Numeral} (writes : Writes chars numeral) :
    ∀ char ∈ chars, Unicode.isBlank char = false :=
  fun char member => (writes.areNumeric char member).notBlank

theorem IsMagnitude.nonempty {chars : List Char} {digits : Nat} {exponent : Int}
    (isMagnitude : IsMagnitude chars digits exponent) : chars ≠ [] := by
  obtain ⟨isWhole, isFraction, given, _⟩ := isMagnitude
  intro isEmpty
  obtain ⟨rfl, rest⟩ := List.append_eq_nil_iff.mp isEmpty
  obtain ⟨rfl, _⟩ := List.append_eq_nil_iff.mp rest
  cases isWhole
  cases isFraction
  simp at given

theorem Writes.nonempty {chars : List Char} {numeral : Numeral} (writes : Writes chars numeral) :
    chars ≠ [] := by
  obtain ⟨_, isMagnitude⟩ := writes
  exact fun isEmpty => isMagnitude.nonempty (List.append_eq_nil_iff.mp isEmpty).2

/-- A numeral with nothing but blanks around it. -/
inductive StandsIn : Numeral → List Char → List Char → Prop where
  | mk {front middle back : List Char} {numeral : Numeral}
      (frontIsBlank : ∀ char ∈ front, Unicode.isBlank char = true)
      (backIsBlank : ∀ char ∈ back, Unicode.isBlank char = true) (writes : Writes middle numeral) :
      numeral.StandsIn (front ++ middle ++ back) (front ++ back)

theorem Writes.standsIn {chars : List Char} {numeral : Numeral} (writes : Writes chars numeral) :
    numeral.StandsIn chars [] := by
  have nothing : ∀ char ∈ ([] : List Char), Unicode.isBlank char = true :=
    fun _ member => absurd member List.not_mem_nil
  have stands := StandsIn.mk nothing nothing writes
  rwa [List.nil_append, List.append_nil] at stands

/-- The text is a numeral, but for an information separator among the blanks around it. -/
def IsRefused (text : String) : Prop :=
  ∃ numeral blanks, StandsIn numeral text.toList blanks ∧ ∃ char ∈ blanks, Unicode.IsSeparator char

theorem parse?_eq_some_iff (text : String) (numeral : Numeral) :
    parse? text = some numeral ↔ ∃ blanks, numeral.StandsIn text.toList blanks := by
  rw [parse?, ofChars?_eq_some_iff]
  constructor
  · intro writes
    obtain ⟨front, back, isText, frontIsBlank, backIsBlank⟩ :=
      Unicode.trimEnds_spec Unicode.isBlank text.toList
    rw [isText]
    exact ⟨front ++ back, .mk frontIsBlank backIsBlank writes⟩
  · rintro ⟨blanks, stands⟩
    generalize text.toList = chars at stands ⊢
    obtain ⟨frontIsBlank, backIsBlank, writes⟩ := stands
    rwa [Unicode.trimEnds_between frontIsBlank backIsBlank writes.notBlank writes.nonempty]

theorem ofChars?_whiteSpace_isSome_iff {chars blanks : List Char} {numeral : Numeral}
    (stands : numeral.StandsIn chars blanks) :
    (ofChars? (Unicode.trimEnds Unicode.isWhiteSpace chars)).isSome = true ↔
      ∀ char ∈ blanks, ¬Unicode.IsSeparator char := by
  obtain ⟨frontIsBlank, backIsBlank, writes⟩ := stands
  rename_i front middle back
  constructor
  · intro isNumeral
    obtain ⟨other, isOther⟩ := Option.isSome_iff_exists.mp isNumeral
    obtain ⟨before, after, isText, beforeGoes, afterGoes⟩ :=
      Unicode.trimEnds_spec Unicode.isWhiteSpace (front ++ middle ++ back)
    have otherWrites := (ofChars?_eq_some_iff _ _).mp isOther
    have noSeparator : ∀ char ∈ front ++ middle ++ back, ¬Unicode.IsSeparator char := by
      rw [isText]
      simp only [List.forall_mem_append]
      refine ⟨⟨fun char member => ((Unicode.isWhiteSpace_iff char).mp (beforeGoes char member)).2,
        fun char member isSeparator => ?_⟩,
        fun char member => ((Unicode.isWhiteSpace_iff char).mp (afterGoes char member)).2⟩
      have notBlank := otherWrites.notBlank char member
      exact Bool.false_ne_true (notBlank.symm.trans (Unicode.isBlank_of_isSeparator isSeparator))
    simp only [List.forall_mem_append] at noSeparator ⊢
    exact ⟨noSeparator.1.1, noSeparator.2⟩
  · intro noSeparator
    rw [List.forall_mem_append] at noSeparator
    have middleStays : ∀ char ∈ middle, Unicode.isWhiteSpace char = false := by
      intro char member
      rw [← Bool.not_eq_true, Unicode.isWhiteSpace_iff, writes.notBlank char member]
      exact fun isWhite => Bool.false_ne_true isWhite.1
    have goes : ∀ char, Unicode.isBlank char = true → ¬Unicode.IsSeparator char →
        Unicode.isWhiteSpace char = true := fun char isBlank isOther =>
      (Unicode.isWhiteSpace_iff char).mpr ⟨isBlank, isOther⟩
    rw [Unicode.trimEnds_between
      (fun char member => goes char (frontIsBlank char member) (noSeparator.1 char member))
      (fun char member => goes char (backIsBlank char member) (noSeparator.2 char member))
      middleStays writes.nonempty, (ofChars?_eq_some_iff _ _).mpr writes]
    rfl

theorem read_eq_ok_none_iff (text : String) : read text = .ok none ↔ parse? text = none := by
  rw [read]
  cases parse? text with
  | none => simp
  | some numeral =>
      dsimp only
      split <;> simp

/-- A text is a number just when it is a numeral between blanks that are no separators. -/
theorem read_eq_ok_some_iff (text : String) (number : Binary64) :
    read text = .ok (some number) ↔
      ∃ numeral blanks, StandsIn numeral text.toList blanks ∧
        (∀ char ∈ blanks, ¬Unicode.IsSeparator char) ∧ numeral.toBinary64 = number := by
  rw [read]
  cases parsed : parse? text with
  | none =>
      refine iff_of_false (by simp) ?_
      rintro ⟨numeral, blanks, stands, _⟩
      rw [(parse?_eq_some_iff text numeral).mpr ⟨blanks, stands⟩] at parsed
      contradiction
  | some numeral =>
      obtain ⟨blanks, stands⟩ := (parse?_eq_some_iff text numeral).mp parsed
      dsimp only
      constructor
      · intro isNumber
        split at isNumber
        · rename_i isNumeral
          exact ⟨numeral, blanks, stands, (ofChars?_whiteSpace_isSome_iff stands).mp isNumeral,
            Option.some.inj (Except.ok.inj isNumber)⟩
        · contradiction
      · rintro ⟨other, otherBlanks, otherStands, noSeparator, isNumber⟩
        obtain rfl := Option.some.inj
          (parsed.symm.trans ((parse?_eq_some_iff text other).mpr ⟨_, otherStands⟩))
        rw [if_pos ((ofChars?_whiteSpace_isSome_iff otherStands).mpr noSeparator), isNumber]

theorem read_eq_error_iff (text : String) (fault : NumberFault) :
    read text = .error fault ↔ IsRefused text ∧ fault = .notNumber text := by
  rw [read]
  cases parsed : parse? text with
  | none =>
      refine iff_of_false (by simp) ?_
      rintro ⟨⟨numeral, blanks, stands, _⟩, _⟩
      rw [(parse?_eq_some_iff text numeral).mpr ⟨blanks, stands⟩] at parsed
      contradiction
  | some numeral =>
      obtain ⟨blanks, stands⟩ := (parse?_eq_some_iff text numeral).mp parsed
      dsimp only
      constructor
      · intro isFault
        split at isFault
        · contradiction
        · rename_i isOther
          rw [ofChars?_whiteSpace_isSome_iff stands] at isOther
          push Not at isOther
          exact ⟨⟨numeral, blanks, stands, isOther⟩, (Except.error.inj isFault).symm⟩
      · rintro ⟨⟨other, otherBlanks, otherStands, char, isBlank, isSeparator⟩, rfl⟩
        rw [if_neg]
        rw [ofChars?_whiteSpace_isSome_iff otherStands]
        exact fun noSeparator => noSeparator char isBlank isSeparator

end Numeral

end ConversionTracking
