import ConversionTracking.Condition.Path
import ConversionTracking.Proofs.Number.Numeral
import ConversionTracking.Proofs.Value.Entries

/-!
Values found by paths. A path is followed segment by segment: an entry of a map by its name, an item of
a list by its position. A path that leads nowhere finds null, unless it comes to a list with a segment
of digits that is no position, which is refused.
-/

namespace ConversionTracking

theorem splitAtChar_eq_splitOn (separator : Char) (chars : List Char) :
    splitAtChar separator chars = chars.splitOn separator := by
  rw [List.splitOn_eq_splitOnP]
  induction chars with
  | nil => rw [splitAtChar, List.splitOnP_nil]
  | cons char rest ih =>
      rw [splitAtChar, List.splitOnP_cons_eq_if_modifyHead, ih]
      simp only [beq_iff_eq]
      split
      · rfl
      · obtain ⟨piece, pieces, isSplit⟩ :=
          List.exists_cons_of_ne_nil (List.splitOnP_ne_nil (· == separator) rest)
        rw [isSplit]
        rfl

theorem not_mem_of_mem_splitAtChar {separator : Char} {chars piece : List Char}
    (member : piece ∈ splitAtChar separator chars) : separator ∉ piece := by
  induction chars generalizing piece with
  | nil =>
      obtain rfl := List.mem_singleton.mp member
      exact List.not_mem_nil
  | cons char rest ih =>
      rw [splitAtChar] at member
      split at member
      · rcases List.mem_cons.mp member with rfl | member
        · exact List.not_mem_nil
        · exact ih member
      · rename_i isOther
        split at member
        · rename_i first pieces isSplit
          rw [isSplit] at ih
          rcases List.mem_cons.mp member with rfl | member
          · rw [List.mem_cons, not_or]
            exact ⟨Ne.symm isOther, ih List.mem_cons_self⟩
          · exact ih (List.mem_cons_of_mem first member)
        · obtain rfl := List.mem_singleton.mp member
          rw [List.mem_singleton]
          exact Ne.symm isOther

structure AreSegments (path : String) (segments : List String) : Prop where
  given : segments ≠ []
  whole : ∀ segment ∈ segments, '.' ∉ segment.toList
  joined : ".".intercalate segments = path

theorem areSegments_splitAtChar (path : String) :
    AreSegments path ((splitAtChar '.' path.toList).map String.ofList) where
  given := by
    rw [ne_eq, List.map_eq_nil_iff, splitAtChar_eq_splitOn]
    exact List.splitOn_ne_nil _ _
  whole := by
    intro segment member
    obtain ⟨piece, isPiece, rfl⟩ := List.mem_map.mp member
    rw [String.toList_ofList]
    exact not_mem_of_mem_splitAtChar isPiece
  joined := by
    have same : String.toList ∘ String.ofList = id := funext fun _ => String.toList_ofList
    apply String.toList_inj.mp
    rw [String.toList_intercalate, List.map_map, same, List.map_id, splitAtChar_eq_splitOn]
    exact List.intercalate_splitOn '.'

theorem AreSegments.eq_split {path : String} {segments : List String}
    (areSegments : AreSegments path segments) :
    segments = (splitAtChar '.' path.toList).map String.ofList := by
  have given : segments.map String.toList ≠ [] := by
    rw [ne_eq, List.map_eq_nil_iff]
    exact areSegments.given
  have whole : ∀ piece ∈ segments.map String.toList, '.' ∉ piece :=
    List.forall_mem_map.mpr areSegments.whole
  have chars : path.toList = ['.'].intercalate (segments.map String.toList) := by
    rw [← areSegments.joined, String.toList_intercalate]
    rfl
  have same : String.ofList ∘ String.toList = id := funext fun _ => String.ofList_toList
  rw [splitAtChar_eq_splitOn, chars, List.splitOn_intercalate '.' whole given, List.map_map, same,
    List.map_id]

namespace WholeText

theorem digitValues?_eq_some_iff {chars : List Char} (plain : '_' ∉ chars) (afterDigit : Bool)
    (values : List Nat) :
    digitValues? afterDigit chars = some values ↔
      Numeral.Spells chars values ∧ (chars = [] → afterDigit = true) := by
  induction chars generalizing afterDigit values with
  | nil => cases afterDigit <;> simp [digitValues?, eq_comm]
  | cons char rest ih =>
      obtain ⟨isOther, restPlain⟩ := not_or.mp (fun member => plain (List.mem_cons.mpr member))
      have unfolded : digitValues? afterDigit (char :: rest) = (do
          let value ← Unicode.decimalValue? char
          let values ← digitValues? true rest
          some (value :: values)) := by
        rw [digitValues?]
        rintro rfl
        exact isOther rfl
      rw [unfolded]
      simp only [Option.bind_eq_bind, Option.bind_eq_some_iff, ih restPlain, Option.some.injEq]
      constructor
      · rintro ⟨value, isValue, rest, ⟨spelled, _⟩, rfl⟩
        exact ⟨.cons isValue spelled, fun isEmpty => nomatch isEmpty⟩
      · rintro ⟨spelled, _⟩
        cases spelled with
        | cons isValue spelled => exact ⟨_, isValue, _, ⟨spelled, fun _ => trivial⟩, rfl⟩

theorem not_mem_of_areDigits {chars : List Char}
    (areDigits : ∀ char ∈ chars, Unicode.isDigit char = true) {other : Char}
    (isOther : Unicode.isDigit other = false) : other ∉ chars := by
  intro member
  rw [areDigits other member] at isOther
  cases isOther

theorem splitSign_digits {chars : List Char} (given : chars ≠ [])
    (areDigits : ∀ char ∈ chars, Unicode.isDigit char = true) :
    Numeral.splitSign (Unicode.trimEnds Unicode.isWhiteSpace chars) = (false, chars) := by
  have stays : ∀ char ∈ chars, Unicode.isWhiteSpace char = false := by
    intro char member
    rw [Unicode.isWhiteSpace, Unicode.isBlank_of_isDigit (areDigits char member)]
    rfl
  have nothing : ∀ char ∈ ([] : List Char), Unicode.isWhiteSpace char = true := by simp
  have trimmed := Unicode.trimEnds_between nothing nothing stays given
  have noSign : ∀ char ∈ chars.head?, char ≠ '-' ∧ char ≠ '+' := by
    intro char isHead
    have member := List.mem_of_mem_head? isHead
    exact ⟨fun isMinus => not_mem_of_areDigits areDigits (by decide) (isMinus ▸ member),
      fun isPlus => not_mem_of_areDigits areDigits (by decide) (isPlus ▸ member)⟩
  have signless := Numeral.splitSign_append .absent noSign
  rw [List.nil_append, List.append_nil] at trimmed
  rw [List.nil_append] at signless
  rw [trimmed, signless]

theorem read_digits {text : String} (given : text.toList ≠ [])
    (areDigits : ∀ char ∈ text.toList, Unicode.isDigit char = true) :
    (∃ values, Numeral.Spells text.toList values ∧ values.length ≤ wholeDigitLimit ∧
        read text = .ok (ofDigitValues values : Nat)) ∨
      (∀ values, Numeral.Spells text.toList values → wholeDigitLimit < values.length) ∧
        ∃ fault, read text = .error fault := by
  have plain : '_' ∉ text.toList := not_mem_of_areDigits areDigits (by decide)
  rw [read, splitSign_digits given areDigits]
  dsimp only
  cases isRead : digitValues? false text.toList with
  | none =>
      refine .inr ⟨fun values spelled => ?_, _, rfl⟩
      have isValues := (digitValues?_eq_some_iff plain false values).mpr
        ⟨spelled, fun isEmpty => absurd isEmpty given⟩
      rw [isRead] at isValues
      cases isValues
  | some values =>
      obtain ⟨spelled, _⟩ := (digitValues?_eq_some_iff plain false values).mp isRead
      dsimp only
      split
      · rename_i isLong
        refine .inr ⟨fun others otherSpelled => ?_, _, rfl⟩
        rwa [← otherSpelled.length_eq, spelled.length_eq]
      · rename_i isShort
        exact .inl ⟨values, spelled, Nat.le_of_not_lt isShort, rfl⟩

end WholeText

namespace Value

def IsPosition (segment : String) (position : Nat) : Prop :=
  ∃ values, segment.toList ≠ [] ∧ Numeral.Spells segment.toList values ∧
    ofDigitValues values = position

/-- The segment has digits only, and is refused as a position: a digit is not decimal, or there are too
many of them. -/
structure IsRefusedPosition (segment : String) : Prop where
  given : segment.toList ≠ []
  areDigits : ∀ char ∈ segment.toList, Unicode.isDigit char = true
  refused : (∃ char ∈ segment.toList, Unicode.isDecimal char = false) ∨
    wholeDigitLimit < segment.toList.length

inductive StepsTo : Value → String → Value → Prop where
  | entry {entries : Entries} {name : String} {found : Value}
      (isEntry : entries.field? name = some found) : StepsTo (.map entries) name found
  | item {items : List Value} {segment : String} {position : Nat} {found : Value}
      (isPosition : IsPosition segment position) (isItem : items[position]? = some found) :
      StepsTo (.list items) segment found

/-- The segments lead from the value to the found one. -/
inductive Leads : Value → List String → Value → Prop where
  | here (value : Value) : Leads value [] value
  | step {value next found : Value} {segment : String} {rest : List String}
      (stepsTo : StepsTo value segment next) (leads : Leads next rest found) :
      Leads value (segment :: rest) found

/-- The segments lead to a list with a segment that is refused as a position. -/
def IsBlocked (value : Value) (segments : List String) : Prop :=
  ∃ before segment after items, segments = before ++ segment :: after ∧
    Leads value before (.list items) ∧ IsRefusedPosition segment

theorem IsPosition.unique {segment : String} {first second : Nat} (isFirst : IsPosition segment first)
    (isSecond : IsPosition segment second) : first = second := by
  obtain ⟨firstValues, _, firstSpelled, rfl⟩ := isFirst
  obtain ⟨secondValues, _, secondSpelled, rfl⟩ := isSecond
  rw [firstSpelled.unique secondSpelled]

theorem IsPosition.areDigits {segment : String} {position : Nat}
    (isPosition : IsPosition segment position) :
    segment.toList ≠ [] ∧ ∀ char ∈ segment.toList, Unicode.isDigit char = true := by
  obtain ⟨values, given, spelled, _⟩ := isPosition
  exact ⟨given, fun char member => Unicode.isDigit_of_isDecimal (spelled.isDecimal char member)⟩

theorem StepsTo.unique {value first second : Value} {segment : String}
    (isFirst : StepsTo value segment first) (isSecond : StepsTo value segment second) :
    first = second := by
  cases isFirst with
  | entry isFirst =>
      cases isSecond with
      | entry isSecond => exact Option.some.inj (isFirst.symm.trans isSecond)
  | item firstPosition isFirst =>
      cases isSecond with
      | item secondPosition isSecond =>
          obtain rfl := firstPosition.unique secondPosition
          exact Option.some.inj (isFirst.symm.trans isSecond)

theorem isRefusedPosition_iff {segment : String} (given : segment.toList ≠ [])
    (areDigits : ∀ char ∈ segment.toList, Unicode.isDigit char = true) :
    IsRefusedPosition segment ↔
      ∀ values, Numeral.Spells segment.toList values → wholeDigitLimit < values.length := by
  constructor
  · rintro ⟨_, _, refused⟩ values spelled
    rcases refused with ⟨char, member, notDecimal⟩ | isLong
    · have isDecimal := spelled.isDecimal char member
      rw [notDecimal] at isDecimal
      cases isDecimal
    · rwa [← spelled.length_eq]
  · intro areLong
    refine ⟨given, areDigits, ?_⟩
    by_cases areDecimal : ∀ char ∈ segment.toList, Unicode.isDecimal char = true
    · obtain ⟨values, spelled⟩ := Numeral.exists_spells areDecimal
      exact .inr (spelled.length_eq ▸ areLong values spelled)
    · simp only [not_forall, Bool.not_eq_true] at areDecimal
      obtain ⟨char, member, notDecimal⟩ := areDecimal
      exact .inl ⟨char, member, notDecimal⟩

theorem step_list_of_digits (items : List Value) {segment : String} (given : segment.toList ≠ [])
    (areDigits : ∀ char ∈ segment.toList, Unicode.isDigit char = true) :
    (Value.list items).step segment =
      (WholeText.read segment).map fun position => (items[position.toNat]?).getD .null := by
  have isRead : (!segment.isEmpty && segment.toList.all Unicode.isDigit) = true := by
    rw [Bool.and_eq_true, List.all_eq_true]
    refine ⟨?_, areDigits⟩
    simpa using given
  rw [step, if_pos isRead]
  cases WholeText.read segment <;> rfl

theorem step_list_of_other (items : List Value) {segment : String}
    (notDigits : ¬(segment.toList ≠ [] ∧ ∀ char ∈ segment.toList, Unicode.isDigit char = true)) :
    (Value.list items).step segment = .ok .null := by
  have notRead : ¬(!segment.isEmpty && segment.toList.all Unicode.isDigit) = true := by
    rw [Bool.and_eq_true, List.all_eq_true]
    rintro ⟨given, areDigits⟩
    refine notDigits ⟨?_, areDigits⟩
    simpa using given
  rw [step, if_neg notRead]

theorem step_list (items : List Value) (segment : String) :
    (IsRefusedPosition segment ∧ ∃ fault, (Value.list items).step segment = .error fault) ∨
      ¬IsRefusedPosition segment ∧ ∃ found, (Value.list items).step segment = .ok found ∧
        (StepsTo (.list items) segment found ∨
          found = .null ∧ ∀ other, ¬StepsTo (.list items) segment other) := by
  by_cases haveDigits : segment.toList ≠ [] ∧ ∀ char ∈ segment.toList, Unicode.isDigit char = true
  · obtain ⟨given, areDigits⟩ := haveDigits
    rw [step_list_of_digits items given areDigits, isRefusedPosition_iff given areDigits]
    rcases WholeText.read_digits given areDigits with
      ⟨values, spelled, isShort, isRead⟩ | ⟨areLong, fault, fails⟩
    · refine .inr ⟨fun areLong => absurd (areLong values spelled) (Nat.not_lt.mpr isShort), ?_⟩
      have isPosition : IsPosition segment (ofDigitValues values) := ⟨values, given, spelled, rfl⟩
      rw [isRead]
      refine ⟨_, rfl, ?_⟩
      dsimp only
      rw [Int.toNat_natCast]
      cases isItem : items[ofDigitValues values]? with
      | some found => exact .inl (.item isPosition isItem)
      | none =>
          refine .inr ⟨rfl, ?_⟩
          intro other stepsTo
          cases stepsTo with
          | item otherPosition otherItem =>
              obtain rfl := isPosition.unique otherPosition
              rw [isItem] at otherItem
              cases otherItem
    · rw [fails]
      exact .inl ⟨areLong, fault, rfl⟩
  · rw [step_list_of_other items haveDigits]
    have notRefused : ¬IsRefusedPosition segment :=
      fun refused => haveDigits ⟨refused.given, refused.areDigits⟩
    refine .inr ⟨notRefused, _, rfl, .inr ⟨rfl, ?_⟩⟩
    intro other stepsTo
    cases stepsTo with
    | item isPosition _ => exact haveDigits isPosition.areDigits

theorem step_spec (value : Value) (segment : String) :
    ((∃ items, value = .list items) ∧ IsRefusedPosition segment ∧
        ∃ fault, value.step segment = .error fault) ∨
      ¬((∃ items, value = .list items) ∧ IsRefusedPosition segment) ∧
        ∃ found, value.step segment = .ok found ∧
          (StepsTo value segment found ∨ found = .null ∧ ∀ other, ¬StepsTo value segment other) := by
  cases value with
  | list items =>
      rcases step_list items segment with refused | ⟨notRefused, found⟩
      · exact .inl ⟨⟨items, rfl⟩, refused⟩
      · exact .inr ⟨fun refused => notRefused refused.2, found⟩
  | map entries =>
      refine .inr ⟨nofun, _, rfl, ?_⟩
      rw [Entries.field_eq]
      cases isEntry : Entries.field? entries segment with
      | some found => exact .inl (.entry isEntry)
      | none =>
          refine .inr ⟨rfl, ?_⟩
          intro other stepsTo
          cases stepsTo with
          | entry otherEntry =>
              rw [isEntry] at otherEntry
              cases otherEntry
  | _ => exact .inr ⟨nofun, .null, rfl, .inr ⟨rfl, nofun⟩⟩

theorem steps_null (segments : List String) : Value.null.steps segments = .ok .null := by
  induction segments with
  | nil => rfl
  | cons segment rest ih => exact ih

theorem isBlocked_cons_iff (value : Value) (segment : String) (rest : List String) :
    IsBlocked value (segment :: rest) ↔
      ((∃ items, value = .list items) ∧ IsRefusedPosition segment) ∨
        ∃ next, StepsTo value segment next ∧ IsBlocked next rest := by
  constructor
  · rintro ⟨before, refused, after, items, isPath, leads, isRefused⟩
    cases leads with
    | here _ =>
        obtain ⟨rfl, rfl⟩ := List.cons.inj isPath
        exact .inl ⟨⟨items, rfl⟩, isRefused⟩
    | step stepsTo leads =>
        obtain ⟨rfl, rfl⟩ := List.cons.inj isPath
        exact .inr ⟨_, stepsTo, _, refused, after, items, rfl, leads, isRefused⟩
  · rintro (⟨⟨items, rfl⟩, isRefused⟩ | ⟨next, stepsTo, isBlocked⟩)
    · exact ⟨[], segment, rest, items, rfl, .here _, isRefused⟩
    · obtain ⟨before, refused, after, items, rfl, leads, isRefused⟩ := isBlocked
      exact ⟨segment :: before, refused, after, items, rfl, .step stepsTo leads, isRefused⟩

theorem not_isBlocked_nil (value : Value) : ¬IsBlocked value [] := by
  rintro ⟨before, segment, after, items, isPath, _⟩
  exact List.append_ne_nil_of_right_ne_nil before (List.cons_ne_nil segment after) isPath.symm

theorem steps_spec (value : Value) (segments : List String) :
    (IsBlocked value segments ∧ ∃ fault, value.steps segments = .error fault) ∨
      ¬IsBlocked value segments ∧ ∃ found, value.steps segments = .ok found ∧
        (Leads value segments found ∨ found = .null ∧ ∀ other, ¬Leads value segments other) := by
  induction segments generalizing value with
  | nil => exact .inr ⟨not_isBlocked_nil value, value, rfl, .inl (.here value)⟩
  | cons segment rest ih =>
      rw [isBlocked_cons_iff, steps]
      rcases step_spec value segment with
        ⟨isList, isRefused, fault, fails⟩ | ⟨notRefused, next, isStep, stepsTo | ⟨rfl, nowhere⟩⟩
      · exact .inl ⟨.inl ⟨isList, isRefused⟩, fault, by rw [fails]; rfl⟩
      · have onlyNext : (∃ other, StepsTo value segment other ∧ IsBlocked other rest) ↔
            IsBlocked next rest :=
          ⟨fun ⟨_, other, isBlocked⟩ => other.unique stepsTo ▸ isBlocked,
            fun isBlocked => ⟨next, stepsTo, isBlocked⟩⟩
        rw [or_iff_right notRefused, onlyNext, isStep]
        rcases ih next with isBlocked | ⟨notBlocked, found, isFound, leads | ⟨rfl, nowhere⟩⟩
        · exact .inl isBlocked
        · exact .inr ⟨notBlocked, found, isFound, .inl (.step stepsTo leads)⟩
        · refine .inr ⟨notBlocked, .null, isFound, .inr ⟨rfl, ?_⟩⟩
          intro other otherLeads
          cases otherLeads with
          | step otherStep leads =>
              obtain rfl := otherStep.unique stepsTo
              exact nowhere other leads
      · refine .inr ⟨?_, .null, by rw [isStep]; exact steps_null rest, .inr ⟨rfl, ?_⟩⟩
        · rintro (refused | ⟨other, stepsTo, _⟩)
          · exact notRefused refused
          · exact nowhere other stepsTo
        · intro other otherLeads
          cases otherLeads with
          | step stepsTo _ => exact nowhere _ stepsTo

theorem Leads.unique {value first second : Value} {segments : List String}
    (isFirst : Leads value segments first) (isSecond : Leads value segments second) :
    first = second := by
  induction isFirst with
  | here _ =>
      cases isSecond with
      | here _ => rfl
  | step stepsTo _ ih =>
      cases isSecond with
      | step otherStep leads =>
          obtain rfl := otherStep.unique stepsTo
          exact ih leads

/-- What a path does by its segments. -/
theorem atPath_spec (value : Value) {path : String} {segments : List String}
    (areSegments : AreSegments path segments) :
    ((∃ fault, value.atPath path = .error fault) ↔ IsBlocked value segments) ∧
      ∀ found, value.atPath path = .ok found ↔
        ¬IsBlocked value segments ∧
          (Leads value segments found ∨ found = .null ∧ ∀ other, ¬Leads value segments other) := by
  rw [atPath, ← areSegments.eq_split]
  rcases steps_spec value segments with
    ⟨isBlocked, fault, fails⟩ | ⟨notBlocked, answer, isAnswer, isRight⟩
  · rw [fails]
    refine ⟨iff_of_true ⟨fault, rfl⟩ isBlocked, fun found => iff_of_false nofun ?_⟩
    exact fun isRight => isRight.1 isBlocked
  · rw [isAnswer]
    refine ⟨iff_of_false nofun notBlocked, fun found => ?_⟩
    rw [Except.ok.injEq]
    constructor
    · rintro rfl
      exact ⟨notBlocked, isRight⟩
    · rintro ⟨_, leads | ⟨rfl, nowhere⟩⟩
      · rcases isRight with answerLeads | ⟨_, nowhere⟩
        · exact answerLeads.unique leads
        · exact absurd leads (nowhere found)
      · rcases isRight with answerLeads | ⟨isNull, _⟩
        · exact absurd answerLeads (nowhere answer)
        · exact isNull

/-- A path is followed along its segments. It fails just when it comes to a list with a segment of digits
that is refused as a position; else it finds what it leads to, and null when it leads nowhere. -/
theorem atPath_follows (value : Value) (path : String) :
    ∃ segments, AreSegments path segments ∧
      ((∃ fault, value.atPath path = .error fault) ↔ IsBlocked value segments) ∧
      ∀ found, value.atPath path = .ok found ↔
        ¬IsBlocked value segments ∧
          (Leads value segments found ∨ found = .null ∧ ∀ other, ¬Leads value segments other) :=
  ⟨_, areSegments_splitAtChar path, atPath_spec value (areSegments_splitAtChar path)⟩

/-- A superscript two is a digit and no position. -/
theorem superscript_blocks_path :
    ¬∀ (value : Value) (path : String), ∃ found, value.atPath path = .ok found := by
  intro finds
  have fails : ((Value.map [(.text "items", .list [.text "a"])]).atPath "items.²").isOk = false := by
    decide +kernel
  obtain ⟨found, isFound⟩ := finds (.map [(.text "items", .list [.text "a"])]) "items.²"
  rw [isFound] at fails
  cases fails

end Value

end ConversionTracking
