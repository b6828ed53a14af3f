import ConversionTracking.Condition.Reading
import ConversionTracking.Proofs.Number.NearestDecimal
import ConversionTracking.Proofs.Number.Written
import ConversionTracking.Proofs.Value.Hazards
import ConversionTracking.Proofs.Value.Meaning

/-!
Loose equality by readings. A value that cannot be read as a number, or a signaling NaN inside, makes
the comparison fail, and nothing else does. Null, texts and finite numbers are equal just when they have
one reading: nothing, an exact number, or a text that is no numeral.
-/

namespace ConversionTracking

namespace Binary64

theorem ofUnits_ne_nan (negative : Bool) (num den : Nat) : ofUnits negative num den ≠ .nan := by
  unfold ofUnits
  dsimp only
  split <;> exact Binary64.noConfusion

theorem ofDecimal_ne_nan (negative : Bool) (digits : Nat) (exponent : Int) :
    ofDecimal negative digits exponent ≠ .nan := by
  rw [ofDecimal_eq_ofRatio]
  exact ofUnits_ne_nan _ _ _

theorem exists_value?_of_ne_nan {number : Binary64} (isNumber : number ≠ .nan) :
    ∃ exact, number.value? = some exact := by
  cases number with
  | finite negative units inRange => exact ⟨_, value?_finite negative units inRange⟩
  | infinite negative => exact ⟨_, value?_infinite negative⟩
  | nan => exact absurd rfl isNumber

end Binary64

namespace Value

/-- The value has a numeric reading that fails: a whole number out of the range of double precision, a
signaling NaN, or a numeral with an information separator among its blanks. -/
inductive IsUnreadable : Value → Prop where
  | int {value : Int} (isLarge : ¬Binary64.IsInRange value) : IsUnreadable (.int value)
  | decimal (negative : Bool) (payload : List Char) :
      IsUnreadable (.decimal (.nan negative true payload))
  | text {text : String} (isRefused : Numeral.IsRefused text) : IsUnreadable (.text text)

theorem isUnreadable_int_iff (value : Int) :
    IsUnreadable (.int value) ↔ ¬Binary64.IsInRange value :=
  ⟨fun | .int isLarge => isLarge, .int⟩

theorem isUnreadable_text_iff (text : String) :
    IsUnreadable (.text text) ↔ Numeral.IsRefused text :=
  ⟨fun | .text isRefused => isRefused, .text⟩

theorem isUnreadable_decimal_iff (value : Decimal) :
    IsUnreadable (.decimal value) ↔ value.isSignaling = true := by
  constructor
  · rintro ⟨⟩
    rfl
  · intro isSignaling
    match value with
    | .nan negative true payload => exact .decimal negative payload

theorem toNumber_error_iff (value : Value) :
    (∃ fault, value.toNumber = .error fault) ↔ value.IsUnreadable := by
  cases value with
  | int value =>
      rw [isUnreadable_int_iff, toNumber]
      by_cases isInRange : Binary64.IsInRange value
      · obtain ⟨number, isNumber, _⟩ := Binary64.exists_ofInt? isInRange
        simp [isNumber, isInRange]
      · simp [Binary64.ofInt?_of_not_inRange isInRange, isInRange]
  | decimal value =>
      rw [isUnreadable_decimal_iff, toNumber]
      split <;> simp_all
  | text text =>
      simp only [toNumber, Numeral.read_eq_error_iff, isUnreadable_text_iff]
      exact ⟨fun ⟨_, isRefused, _⟩ => isRefused, fun isRefused => ⟨_, isRefused, rfl⟩⟩
  | _ =>
      refine iff_of_false ?_ (by rintro ⟨⟩)
      simp [toNumber]

theorem exists_toNumber {value : Value} (isReadable : ¬value.IsUnreadable) :
    ∃ reading, value.toNumber = .ok reading := by
  cases isRead : value.toNumber with
  | ok reading => exact ⟨reading, rfl⟩
  | error fault => exact absurd ((toNumber_error_iff value).mp ⟨fault, isRead⟩) isReadable

theorem isNull_eq_false {value : Value} (notNull : value ≠ .null) : value.isNull = false := by
  cases value with
  | null => exact absurd rfl notNull
  | _ => rfl

theorem ne_null_of_toNumber {value : Value} {number : Binary64}
    (isNumber : value.toNumber = .ok (some number)) : value ≠ .null := by
  rintro rfl
  cases isNumber

section

variable {observed target : Value}

theorem looseEquals_of_null (isNull : observed = .null ∨ target = .null) :
    observed.looseEquals target = .ok (observed.isNull && target.isNull) := by
  have eitherNull : (observed.isNull || target.isNull) = true := by
    rcases isNull with rfl | rfl
    · rfl
    · exact Bool.or_true _
  rw [looseEquals, if_pos eitherNull]
  rfl

theorem looseEquals_of_ne_null (observedGiven : observed ≠ .null) (targetGiven : target ≠ .null) :
    observed.looseEquals target = (do
      match (← observed.toNumber), (← target.toNumber) with
      | some left, some right => return left.equals right
      | _, _ =>
          match observed.toText?, target.toText? with
          | some left, some right => return left == right
          | _, _ =>
              if observed.signals target then .error .signalingCompared
              else return observed.equals target) := by
  have neitherNull : ¬(observed.isNull || target.isNull) = true := by
    rw [isNull_eq_false observedGiven, isNull_eq_false targetGiven]
    exact Bool.false_ne_true
  rw [looseEquals]
  exact if_neg neitherNull

theorem looseEquals_of_unreadable (observedGiven : observed ≠ .null) (targetGiven : target ≠ .null)
    (unreadable : observed.IsUnreadable ∨ target.IsUnreadable) :
    ∃ fault, observed.looseEquals target = .error fault := by
  rw [looseEquals_of_ne_null observedGiven targetGiven]
  cases observedRead : observed.toNumber with
  | error fault => exact ⟨fault, rfl⟩
  | ok reading =>
      have targetUnreadable := unreadable.resolve_left fun isUnreadable => by
        obtain ⟨fault, fails⟩ := (toNumber_error_iff observed).mpr isUnreadable
        rw [observedRead] at fails
        contradiction
      obtain ⟨fault, fails⟩ := (toNumber_error_iff target).mpr targetUnreadable
      exact ⟨fault, by rw [fails]; rfl⟩

theorem looseEquals_of_numbers {left right : Binary64}
    (observedRead : observed.toNumber = .ok (some left))
    (targetRead : target.toNumber = .ok (some right)) :
    observed.looseEquals target = .ok (left.equals right) := by
  rw [looseEquals_of_ne_null (ne_null_of_toNumber observedRead) (ne_null_of_toNumber targetRead),
    observedRead, targetRead]
  rfl

section

variable {left right : Option Binary64} (observedGiven : observed ≠ .null)
  (targetGiven : target ≠ .null) (observedRead : observed.toNumber = .ok left)
  (targetRead : target.toNumber = .ok right) (notNumbers : left = none ∨ right = none)

include observedGiven targetGiven observedRead targetRead notNumbers

theorem looseEquals_of_texts {leftText rightText : String}
    (observedText : observed.toText? = some leftText) (targetText : target.toText? = some rightText) :
    observed.looseEquals target = .ok (leftText == rightText) := by
  rw [looseEquals_of_ne_null observedGiven targetGiven, observedRead, targetRead, observedText,
    targetText]
  rcases notNumbers with rfl | rfl
  · rfl
  · cases left <;> rfl

theorem looseEquals_of_no_text (noText : observed.toText? = none ∨ target.toText? = none) :
    observed.looseEquals target =
      if observed.signals target then .error .signalingCompared
      else .ok (observed.equals target) := by
  have noTexts : observed.looseEquals target = (do
      match observed.toText?, target.toText? with
      | some left, some right => return left == right
      | _, _ =>
          if observed.signals target then .error .signalingCompared
          else return observed.equals target) := by
    rw [looseEquals_of_ne_null observedGiven targetGiven, observedRead, targetRead]
    rcases notNumbers with rfl | rfl
    · rfl
    · cases left <;> rfl
  rw [noTexts]
  rcases noText with isNone | isNone
  · rw [isNone]
    rfl
  · rw [isNone]
    cases observed.toText? <;> rfl

end

theorem isUnreadable_of_signaling {value : Value} {number : Numeric}
    (isNumber : value.numeric? = some number) (isSignaling : number.isSignaling = true) :
    value.IsUnreadable := by
  cases value with
  | decimal value =>
      cases isNumber
      exact (isUnreadable_decimal_iff value).mpr isSignaling
  | bool _ | int _ | float _ =>
      cases isNumber
      contradiction
  | _ => cases isNumber

theorem readings_of_meetsSignaling (observedReadable : ¬observed.IsUnreadable)
    (targetReadable : ¬target.IsUnreadable) (meet : observed.MeetsSignaling target) :
    observed.toNumber = .ok none ∧ observed.toText? = none := by
  cases meet with
  | numbers leftIs rightIs isSignaling =>
      rcases isSignaling with leftSignaling | rightSignaling
      · exact absurd (isUnreadable_of_signaling leftIs leftSignaling) observedReadable
      · exact absurd (isUnreadable_of_signaling rightIs rightSignaling) targetReadable
  | lists _ _ _ | tuples _ _ | maps _ _ _ _ | references _ => exact ⟨rfl, rfl⟩

/-- Loose equality fails just when neither side is null and one of them is unreadable, or comparing them
comes on a signaling NaN. -/
theorem looseEquals_error_iff (observed target : Value) :
    (∃ fault, observed.looseEquals target = .error fault) ↔
      observed ≠ .null ∧ target ≠ .null ∧
        (observed.IsUnreadable ∨ target.IsUnreadable ∨ observed.MeetsSignaling target) := by
  by_cases isNull : observed = .null ∨ target = .null
  · rw [looseEquals_of_null isNull]
    refine iff_of_false (by simp) ?_
    rintro ⟨observedGiven, targetGiven, _⟩
    exact isNull.elim observedGiven targetGiven
  obtain ⟨observedGiven, targetGiven⟩ := not_or.mp isNull
  by_cases isUnreadable : observed.IsUnreadable ∨ target.IsUnreadable
  · exact iff_of_true (looseEquals_of_unreadable observedGiven targetGiven isUnreadable)
      ⟨observedGiven, targetGiven, or_assoc.mp (.inl isUnreadable)⟩
  obtain ⟨observedReadable, targetReadable⟩ := not_or.mp isUnreadable
  have onlySignaling : (observed ≠ .null ∧ target ≠ .null ∧
      (observed.IsUnreadable ∨ target.IsUnreadable ∨ observed.MeetsSignaling target)) ↔
        observed.MeetsSignaling target := by
    simp [observedGiven, targetGiven, observedReadable, targetReadable]
  obtain ⟨left, observedRead⟩ := exists_toNumber observedReadable
  obtain ⟨right, targetRead⟩ := exists_toNumber targetReadable
  rw [onlySignaling]
  constructor
  · rintro ⟨fault, fails⟩
    by_cases areNumbers : left = none ∨ right = none
    · by_cases haveText : observed.toText? = none ∨ target.toText? = none
      · rw [looseEquals_of_no_text observedGiven targetGiven observedRead targetRead areNumbers
          haveText] at fails
        split at fails
        · exact meetsSignaling_of_signals ‹_›
        · cases fails
      · obtain ⟨observedText, targetText⟩ := not_or.mp haveText
        obtain ⟨_, observedText⟩ := Option.ne_none_iff_exists'.mp observedText
        obtain ⟨_, targetText⟩ := Option.ne_none_iff_exists'.mp targetText
        rw [looseEquals_of_texts observedGiven targetGiven observedRead targetRead areNumbers
          observedText targetText] at fails
        cases fails
    · obtain ⟨leftGiven, rightGiven⟩ := not_or.mp areNumbers
      obtain ⟨_, rfl⟩ := Option.ne_none_iff_exists'.mp leftGiven
      obtain ⟨_, rfl⟩ := Option.ne_none_iff_exists'.mp rightGiven
      rw [looseEquals_of_numbers observedRead targetRead] at fails
      cases fails
  · intro meet
    obtain ⟨noNumber, noText⟩ := readings_of_meetsSignaling observedReadable targetReadable meet
    refine ⟨.signalingCompared, ?_⟩
    rw [looseEquals_of_no_text observedGiven targetGiven noNumber targetRead (.inl rfl) (.inl noText),
      if_pos ((signals_iff observed target).mpr meet)]

end

/-- Null, a text, a finite number with a fraction, or a whole number in the range of double precision. -/
inductive IsPlain : Value → Prop where
  | null : IsPlain .null
  | text (text : String) : IsPlain (.text text)
  | int {value : Int} (isInRange : Binary64.IsInRange value) : IsPlain (.int value)
  | float (negative : Bool) (units : Nat) (inRange : units < Binary64.unitsLimit) :
      IsPlain (.float (.finite negative units inRange))
  | decimal (negative : Bool) (coefficient : Nat) (exponent : Int) :
      IsPlain (.decimal (.finite negative coefficient exponent))

inductive Reading where
  | null
  | number (exact : ExactNumber)
  | word (text : String)

def readingFrom? (value : Value) : Except NumberFault (Option Binary64) → Option Reading
  | .ok (some number) => number.value?.map .number
  | .ok none => value.text?.map .word
  | .error _ => none

def reading? (value : Value) : Option Reading :=
  if value.isNull then some .null else value.readingFrom? value.toNumber

structure IsNumeric (value : Value) (number : Binary64) (written : String) : Prop where
  read : value.toNumber = .ok (some number)
  isNumber : number ≠ .nan
  text : value.toText? = some written
  isNumeral : ∃ numeral, Numeral.parse? written = some numeral

theorem exists_parse? {text : String} (isNumeral : Numeral.IsNumeral text.toList) :
    ∃ numeral, Numeral.parse? text = some numeral := by
  obtain ⟨numeral, writes⟩ := isNumeral
  exact ⟨numeral, (Numeral.parse?_eq_some_iff text numeral).mpr ⟨_, writes.standsIn⟩⟩

theorem isNumeric_int {value : Int} (isInRange : Binary64.IsInRange value) :
    ∃ number, IsNumeric (.int value) number (intText value) := by
  obtain ⟨number, isNumber, isWhole⟩ := Binary64.exists_ofInt? isInRange
  refine ⟨number, ?_, ?_, rfl, exists_parse? (Numeral.isNumeral_intText value)⟩
  · rw [toNumber, isNumber]
    rfl
  · rintro rfl
    cases isWhole

theorem isNumeric_float (negative : Bool) (units : Nat) (inRange : units < Binary64.unitsLimit) :
    ∃ written, IsNumeric (.float (.finite negative units inRange))
      (.finite negative units inRange) written := by
  cases isWhole : (Binary64.finite negative units inRange).toInt? with
  | some whole =>
      exact ⟨intText whole, rfl, Binary64.noConfusion, by rw [toText?, isWhole],
        exists_parse? (Numeral.isNumeral_intText whole)⟩
  | none =>
      exact ⟨_, rfl, Binary64.noConfusion, by rw [toText?, isWhole],
        exists_parse? (Numeral.isNumeral_binary64 negative units inRange)⟩

theorem isNumeric_decimal (negative : Bool) (coefficient : Nat) (exponent : Int) :
    IsNumeric (.decimal (.finite negative coefficient exponent))
      (.ofDecimal negative coefficient exponent) (Decimal.finite negative coefficient exponent).text where
  read := rfl
  isNumber := Binary64.ofDecimal_ne_nan negative coefficient exponent
  text := rfl
  isNumeral := exists_parse? (Numeral.isNumeral_decimal negative coefficient exponent)

theorem isNumeric_text {text : String} {number : Binary64}
    (isRead : Numeral.read text = .ok (some number)) : IsNumeric (.text text) number text := by
  obtain ⟨numeral, blanks, stands, _, rfl⟩ := (Numeral.read_eq_ok_some_iff text number).mp isRead
  exact ⟨isRead, Binary64.ofDecimal_ne_nan _ _ _, rfl, numeral,
    (Numeral.parse?_eq_some_iff text numeral).mpr ⟨blanks, stands⟩⟩

theorem IsPlain.cases {value : Value} (isPlain : value.IsPlain) (isReadable : ¬value.IsUnreadable) :
    value = .null ∨ (∃ number written, value.IsNumeric number written) ∨
      ∃ text, value = .text text ∧ value.toNumber = .ok none := by
  cases isPlain with
  | null => exact .inl rfl
  | int isInRange =>
      obtain ⟨number, isNumeric⟩ := isNumeric_int isInRange
      exact .inr (.inl ⟨number, _, isNumeric⟩)
  | float negative units inRange =>
      obtain ⟨written, isNumeric⟩ := isNumeric_float negative units inRange
      exact .inr (.inl ⟨_, written, isNumeric⟩)
  | decimal negative coefficient exponent =>
      exact .inr (.inl ⟨_, _, isNumeric_decimal negative coefficient exponent⟩)
  | text text =>
      obtain ⟨reading, isRead⟩ := exists_toNumber isReadable
      cases reading with
      | none => exact .inr (.inr ⟨text, rfl, isRead⟩)
      | some number => exact .inr (.inl ⟨number, text, isNumeric_text isRead⟩)

section

variable {value : Value} {number : Binary64} {written text : String}

theorem reading?_of_isNumeric (isNumeric : value.IsNumeric number written) :
    value.reading? = number.value?.map .number := by
  rw [reading?, isNull_eq_false (ne_null_of_toNumber isNumeric.read), isNumeric.read]
  rfl

theorem reading?_of_word (isWord : toNumber (.text text) = .ok none) :
    reading? (.text text) = some (.word text) := by
  rw [reading?, isWord]
  rfl

theorem looseEquals_word_of_isNumeric (isNumeric : value.IsNumeric number written)
    (isWord : toNumber (.text text) = .ok none) :
    value.looseEquals (.text text) = .ok false ∧ looseEquals (.text text) value = .ok false := by
  have given := ne_null_of_toNumber isNumeric.read
  have textGiven : Value.text text ≠ .null := Value.noConfusion
  have different : written ≠ text := by
    rintro rfl
    obtain ⟨numeral, isNumeral⟩ := isNumeric.isNumeral
    rw [(Numeral.read_eq_ok_none_iff written).mp isWord] at isNumeral
    cases isNumeral
  rw [looseEquals_of_texts given textGiven isNumeric.read isWord (.inr rfl) isNumeric.text rfl,
    looseEquals_of_texts textGiven given isWord isNumeric.read (.inl rfl) rfl isNumeric.text,
    beq_false_of_ne different, beq_false_of_ne different.symm]
  exact ⟨rfl, rfl⟩

end

theorem reading?_null : reading? .null = some .null := rfl

theorem reading?_eq_null_iff (value : Value) : value.reading? = some .null ↔ value = .null := by
  constructor
  · intro isNull
    by_contra given
    rw [reading?, isNull_eq_false given, if_neg Bool.false_ne_true] at isNull
    generalize value.toNumber = outcome at isNull
    match outcome with
    | .ok (some number) =>
        obtain ⟨_, _, same⟩ := Option.map_eq_some_iff.mp isNull
        cases same
    | .ok none =>
        obtain ⟨_, _, same⟩ := Option.map_eq_some_iff.mp isNull
        cases same
    | .error _ => cases isNull
  · rintro rfl
    rfl

theorem looseEquals_iff_reading_of_null {left right : Value} (isNull : left = .null ∨ right = .null) :
    left.looseEquals right = .ok true ↔
      ∃ reading, left.reading? = some reading ∧ right.reading? = some reading := by
  have onlyNull : ∀ value : Value, value.isNull = true ↔ value = .null := by
    intro value
    cases value <;> simp [Value.isNull]
  rw [looseEquals_of_null isNull, Except.ok.injEq, Bool.and_eq_true, onlyNull, onlyNull]
  rcases isNull with rfl | rfl <;> simp [reading?_null, reading?_eq_null_iff]

theorem looseEquals_iff_reading_of_readable {left right : Value} (leftPlain : left.IsPlain)
    (rightPlain : right.IsPlain) (leftReadable : ¬left.IsUnreadable)
    (rightReadable : ¬right.IsUnreadable) :
    left.looseEquals right = .ok true ↔
      ∃ reading, left.reading? = some reading ∧ right.reading? = some reading := by
  rcases leftPlain.cases leftReadable with
    isNull | ⟨leftNumber, leftText, leftNumeric⟩ | ⟨leftWord, rfl, leftIsWord⟩
  · exact looseEquals_iff_reading_of_null (.inl isNull)
  · rcases rightPlain.cases rightReadable with
      isNull | ⟨rightNumber, rightText, rightNumeric⟩ | ⟨rightWord, rfl, rightIsWord⟩
    · exact looseEquals_iff_reading_of_null (.inr isNull)
    · rw [looseEquals_of_numbers leftNumeric.read rightNumeric.read, Except.ok.injEq,
        Binary64.equals_iff, reading?_of_isNumeric leftNumeric, reading?_of_isNumeric rightNumeric]
      simp
    · rw [(looseEquals_word_of_isNumeric leftNumeric rightIsWord).1, reading?_of_isNumeric leftNumeric,
        reading?_of_word rightIsWord]
      simp
  · rcases rightPlain.cases rightReadable with
      isNull | ⟨rightNumber, rightText, rightNumeric⟩ | ⟨rightWord, rfl, rightIsWord⟩
    · exact looseEquals_iff_reading_of_null (.inr isNull)
    · rw [(looseEquals_word_of_isNumeric rightNumeric leftIsWord).2, reading?_of_isNumeric rightNumeric,
        reading?_of_word leftIsWord]
      simp
    · rw [looseEquals_of_texts Value.noConfusion Value.noConfusion leftIsWord rightIsWord (.inl rfl) rfl
        rfl, reading?_of_word leftIsWord, reading?_of_word rightIsWord]
      simp only [Except.ok.injEq, beq_iff_eq, Option.some.injEq, exists_eq_left', Reading.word.injEq]
      exact eq_comm

theorem exists_reading? {value : Value} (isPlain : value.IsPlain) (isReadable : ¬value.IsUnreadable) :
    ∃ reading, value.reading? = some reading := by
  rcases isPlain.cases isReadable with rfl | ⟨number, written, isNumeric⟩ | ⟨text, rfl, isWord⟩
  · exact ⟨.null, reading?_null⟩
  · obtain ⟨exact, isExact⟩ := Binary64.exists_value?_of_ne_nan isNumeric.isNumber
    exact ⟨.number exact, by rw [reading?_of_isNumeric isNumeric, isExact]; rfl⟩
  · exact ⟨.word text, reading?_of_word isWord⟩

/-- The value is a numeral with an information separator among its blanks. -/
def IsRefused (value : Value) : Prop := ∃ text, value = .text text ∧ Numeral.IsRefused text

theorem IsPlain.isUnreadable_iff {value : Value} (isPlain : value.IsPlain) :
    value.IsUnreadable ↔ value.IsRefused := by
  cases isPlain with
  | text text =>
      rw [isUnreadable_text_iff]
      constructor
      · exact fun isRefused => ⟨text, rfl, isRefused⟩
      · rintro ⟨other, same, isRefused⟩
        obtain rfl := Value.text.inj same
        exact isRefused
  | int isInRange =>
      rw [isUnreadable_int_iff]
      exact iff_of_false (not_not_intro isInRange) nofun
  | null | float _ _ _ | decimal _ _ _ =>
      exact iff_of_false nofun nofun

theorem not_isUnreadable_of_looseEquals {left right : Value} {answer : Bool}
    (isAnswered : left.looseEquals right = .ok answer) (leftGiven : left ≠ .null)
    (rightGiven : right ≠ .null) : ¬left.IsUnreadable ∧ ¬right.IsUnreadable := by
  rw [← not_or]
  intro isUnreadable
  obtain ⟨fault, fails⟩ := looseEquals_of_unreadable leftGiven rightGiven isUnreadable
  rw [isAnswered] at fails
  cases fails

theorem not_isUnreadable_of_reading? {value : Value} {reading : Reading}
    (isReading : value.reading? = some reading) : ¬value.IsUnreadable := by
  intro isUnreadable
  obtain ⟨fault, fails⟩ := (toNumber_error_iff value).mpr isUnreadable
  have given : value ≠ .null := by
    rintro rfl
    cases isUnreadable
  rw [reading?, isNull_eq_false given, fails] at isReading
  cases isReading

/-- Plain values are loosely equal just when they have one reading. -/
theorem looseEquals_iff_reading {left right : Value} (leftPlain : left.IsPlain)
    (rightPlain : right.IsPlain) :
    left.looseEquals right = .ok true ↔
      ∃ reading, left.reading? = some reading ∧ right.reading? = some reading := by
  by_cases isNull : left = .null ∨ right = .null
  · exact looseEquals_iff_reading_of_null isNull
  obtain ⟨leftGiven, rightGiven⟩ := not_or.mp isNull
  constructor
  · intro same
    obtain ⟨leftReadable, rightReadable⟩ := not_isUnreadable_of_looseEquals same leftGiven rightGiven
    exact (looseEquals_iff_reading_of_readable leftPlain rightPlain leftReadable rightReadable).mp same
  · rintro ⟨reading, leftReading, rightReading⟩
    exact (looseEquals_iff_reading_of_readable leftPlain rightPlain
      (not_isUnreadable_of_reading? leftReading) (not_isUnreadable_of_reading? rightReading)).mpr
      ⟨reading, leftReading, rightReading⟩

theorem IsPlain.isSignaling_eq_false {value : Value} {number : Numeric} (isPlain : value.IsPlain)
    (isNumber : value.numeric? = some number) : number.isSignaling = false := by
  cases isPlain <;> cases isNumber <;> rfl

theorem IsPlain.not_meetsSignaling {left right : Value} (leftPlain : left.IsPlain)
    (rightPlain : right.IsPlain) : ¬left.MeetsSignaling right := by
  intro meet
  cases meet with
  | numbers leftIs rightIs isSignaling =>
      rw [leftPlain.isSignaling_eq_false leftIs, rightPlain.isSignaling_eq_false rightIs, or_self]
        at isSignaling
      exact Bool.false_ne_true isSignaling
  | lists _ _ _ | tuples _ _ | maps _ _ _ _ | references _ => cases leftPlain

theorem looseEquals_error_iff_of_isPlain {left right : Value} (leftPlain : left.IsPlain)
    (rightPlain : right.IsPlain) :
    (∃ fault, left.looseEquals right = .error fault) ↔
      left ≠ .null ∧ right ≠ .null ∧ (left.IsRefused ∨ right.IsRefused) := by
  rw [looseEquals_error_iff, leftPlain.isUnreadable_iff, rightPlain.isUnreadable_iff]
  simp only [leftPlain.not_meetsSignaling rightPlain, or_false]

/-- On null, texts and finite numbers, loose equality is symmetric and transitive, and all values but
refused texts are equal to themselves. It fails just when a refused text meets anything but null. -/
theorem looseEquals_equivalence {first second third : Value} (firstPlain : first.IsPlain)
    (secondPlain : second.IsPlain) (thirdPlain : third.IsPlain) :
    (first.looseEquals first = .ok true ↔ ¬first.IsRefused) ∧
      ((∃ fault, first.looseEquals second = .error fault) ↔
        first ≠ .null ∧ second ≠ .null ∧ (first.IsRefused ∨ second.IsRefused)) ∧
      (first.looseEquals second = .ok true → second.looseEquals first = .ok true) ∧
      (first.looseEquals second = .ok true → second.looseEquals third = .ok true →
        first.looseEquals third = .ok true) := by
  refine ⟨?_, looseEquals_error_iff_of_isPlain firstPlain secondPlain, ?_, ?_⟩
  · rw [looseEquals_iff_reading firstPlain firstPlain, ← firstPlain.isUnreadable_iff]
    constructor
    · rintro ⟨reading, isReading, _⟩
      exact not_isUnreadable_of_reading? isReading
    · intro isReadable
      obtain ⟨reading, isReading⟩ := exists_reading? firstPlain isReadable
      exact ⟨reading, isReading, isReading⟩
  · rw [looseEquals_iff_reading firstPlain secondPlain, looseEquals_iff_reading secondPlain firstPlain]
    rintro ⟨reading, firstReading, secondReading⟩
    exact ⟨reading, secondReading, firstReading⟩
  · rw [looseEquals_iff_reading firstPlain secondPlain, looseEquals_iff_reading secondPlain thirdPlain,
      looseEquals_iff_reading firstPlain thirdPlain]
    rintro ⟨reading, firstReading, secondReading⟩ ⟨other, sameReading, thirdReading⟩
    obtain rfl := Option.some.inj (secondReading.symm.trans sameReading)
    exact ⟨reading, firstReading, thirdReading⟩

theorem sevens_loosely_equal :
    let blank := Value.text " 7.0 "
    let exact := Value.decimal (.finite false 700 (-2))
    let whole := Value.int 7
    (blank.IsPlain ∧ exact.IsPlain ∧ whole.IsPlain ∧ blank.looseEquals exact = .ok true ∧
        exact.looseEquals whole = .ok true) ∧
      (blank.looseEquals blank = .ok true ↔ ¬blank.IsRefused) ∧
      ((∃ fault, blank.looseEquals exact = .error fault) ↔
        blank ≠ .null ∧ exact ≠ .null ∧ (blank.IsRefused ∨ exact.IsRefused)) ∧
      (blank.looseEquals exact = .ok true → exact.looseEquals blank = .ok true) ∧
      (blank.looseEquals exact = .ok true → exact.looseEquals whole = .ok true →
        blank.looseEquals whole = .ok true) := by
  have wholePlain : IsPlain (.int 7) := .int (by decide +kernel)
  have blankSame : (Value.text " 7.0 ").looseEquals (.decimal (.finite false 700 (-2))) = .ok true := by
    decide +kernel
  have exactSame : (Value.decimal (.finite false 700 (-2))).looseEquals (.int 7) = .ok true := by
    decide +kernel
  exact ⟨⟨.text _, .decimal _ _ _, wholePlain, blankSame, exactSame⟩,
    looseEquals_equivalence (.text _) (.decimal _ _ _) wholePlain⟩

/-- A text that is refused is not even equal to itself. -/
theorem separated_one_unequal_to_itself :
    ¬∀ value : Value, value.IsPlain → value.looseEquals value = .ok true := by
  intro reflexive
  have fails : looseEquals (.text "\x1c1") (.text "\x1c1") = .error (.notNumber "\x1c1") := by
    decide +kernel
  have same := reflexive _ (.text "\x1c1")
  rw [fails] at same
  cases same

end Value

end ConversionTracking
