import ConversionTracking.Proofs.Value.Document
import Mathlib.Data.List.Forall2

/-!
What a comparison of values and the writing of a value fail on: a signaling NaN beside another number,
and a whole number of too many digits.
-/

namespace ConversionTracking

namespace Value

theorem sizeOf_lt_tuple {items : List Value} {item : Value} (member : item ∈ items) :
    sizeOf item < sizeOf (Value.tuple items) := by
  have smaller := List.sizeOf_lt_of_mem member
  simp only [tuple.sizeOf_spec]
  omega

theorem sizeOf_lt_set {items : List Value} {item : Value} (member : item ∈ items) :
    sizeOf item < sizeOf (Value.set items) := by
  have smaller := List.sizeOf_lt_of_mem member
  simp only [set.sizeOf_spec]
  omega

theorem sizeOf_key_lt_map {entries : Entries} {entry : Value × Value} (member : entry ∈ entries) :
    sizeOf entry.1 < sizeOf (Value.map entries) := by
  have smaller := List.sizeOf_lt_of_mem member
  obtain ⟨key, value⟩ := entry
  simp only [Prod.mk.sizeOf_spec, map.sizeOf_spec] at *
  omega

/-- Comparing the values comes on a signaling NaN beside another number, where all parts before are
equal. -/
inductive MeetsSignaling : Value → Value → Prop where
  | numbers {left right : Value} {leftNumber rightNumber : Numeric}
      (leftIs : left.numeric? = some leftNumber) (rightIs : right.numeric? = some rightNumber)
      (isSignaling : leftNumber.isSignaling = true ∨ rightNumber.isSignaling = true) :
      MeetsSignaling left right
  | lists {leftBefore leftAfter rightBefore rightAfter : List Value} {left right : Value}
      (sameBefore : List.Forall₂ (fun left right => left.equals right = true) leftBefore rightBefore)
      (meet : MeetsSignaling left right) (sameLength : leftAfter.length = rightAfter.length) :
      MeetsSignaling (.list (leftBefore ++ left :: leftAfter))
        (.list (rightBefore ++ right :: rightAfter))
  | tuples {leftBefore leftAfter rightBefore rightAfter : List Value} {left right : Value}
      (sameBefore : List.Forall₂ (fun left right => left.equals right = true) leftBefore rightBefore)
      (meet : MeetsSignaling left right) :
      MeetsSignaling (.tuple (leftBefore ++ left :: leftAfter))
        (.tuple (rightBefore ++ right :: rightAfter))
  | maps {before after others : List (Value × Value)} {entry other : Value × Value}
      (sameBefore : ∀ entry ∈ before, ∃ other,
        others.find? (fun other => entry.1.equals other.1) = some other ∧
          entry.2.equals other.2 = true)
      (isFound : others.find? (fun other => entry.1.equals other.1) = some other)
      (meet : MeetsSignaling entry.2 other.2)
      (sameSize : (before ++ entry :: after).length = others.length) :
      MeetsSignaling (.map (before ++ entry :: after)) (.map others)
  | references {left right : Value} (meet : MeetsSignaling left right) :
      MeetsSignaling (.reference left) (.reference right)

theorem itemsSignal_iff (lefts rights : List Value) :
    itemsSignal lefts rights = true ↔
      ∃ leftBefore left leftAfter rightBefore right rightAfter,
        lefts = leftBefore ++ left :: leftAfter ∧ rights = rightBefore ++ right :: rightAfter ∧
        List.Forall₂ (fun left right => left.equals right = true) leftBefore rightBefore ∧
        left.signals right = true := by
  constructor
  · intro signals
    induction lefts generalizing rights with
    | nil => simp [itemsSignal] at signals
    | cons left lefts ih =>
        cases rights with
        | nil => simp [itemsSignal] at signals
        | cons right rights =>
            rw [itemsSignal, Bool.or_eq_true, Bool.and_eq_true] at signals
            rcases signals with here | ⟨same, later⟩
            · exact ⟨[], left, lefts, [], right, rights, rfl, rfl, .nil, here⟩
            · obtain ⟨leftBefore, left', leftAfter, rightBefore, right', rightAfter, rfl, rfl,
                sameBefore, signals⟩ := ih rights later
              exact ⟨left :: leftBefore, left', leftAfter, right :: rightBefore, right', rightAfter,
                rfl, rfl, .cons same sameBefore, signals⟩
  · rintro ⟨leftBefore, left, leftAfter, rightBefore, right, rightAfter, rfl, rfl, sameBefore,
      signals⟩
    induction sameBefore with
    | nil =>
        rw [List.nil_append, List.nil_append, itemsSignal, signals, Bool.true_or]
    | cons same _ ih =>
        rw [List.cons_append, List.cons_append, itemsSignal, same, ih, Bool.true_and, Bool.or_true]

theorem entriesSignal_iff (entries others : List (Value × Value)) :
    entriesSignal entries others = true ↔
      ∃ before entry after other, entries = before ++ entry :: after ∧
        (∀ entry ∈ before, ∃ other, others.find? (fun other => entry.1.equals other.1) = some other ∧
          entry.2.equals other.2 = true) ∧
        others.find? (fun other => entry.1.equals other.1) = some other ∧
        entry.2.signals other.2 = true := by
  constructor
  · intro signals
    induction entries with
    | nil => simp [entriesSignal] at signals
    | cons entry rest ih =>
        rw [entriesSignal] at signals
        cases isFound : others.find? fun other => entry.1.equals other.1 with
        | none => simp [isFound] at signals
        | some other =>
            simp only [isFound, Bool.or_eq_true, Bool.and_eq_true] at signals
            rcases signals with here | ⟨same, later⟩
            · exact ⟨[], entry, rest, other, rfl, by simp, isFound, here⟩
            · obtain ⟨before, entry', after, other', rfl, sameBefore, isFound', signals⟩ := ih later
              exact ⟨entry :: before, entry', after, other', rfl,
                List.forall_mem_cons.mpr ⟨⟨other, isFound, same⟩, sameBefore⟩, isFound', signals⟩
  · rintro ⟨before, entry, after, other, rfl, sameBefore, isFound, signals⟩
    induction before with
    | nil =>
        rw [List.nil_append, entriesSignal, isFound]
        simp only [signals, Bool.true_or]
    | cons first before ih =>
        obtain ⟨⟨firstOther, firstFound, same⟩, sameRest⟩ := List.forall_mem_cons.mp sameBefore
        rw [List.cons_append, entriesSignal, firstFound]
        simp only [same, ih sameRest, Bool.true_and, Bool.or_true]

theorem signals_of_numbers {left right : Value} {leftNumber rightNumber : Numeric}
    (leftIs : left.numeric? = some leftNumber) (rightIs : right.numeric? = some rightNumber) :
    left.signals right = (leftNumber.isSignaling || rightNumber.isSignaling) := by
  cases left with
  | bool _ | int _ | float _ | decimal _ =>
      simp only [signals]
      rw [leftIs, rightIs]
  | _ => cases leftIs

theorem meetsSignaling_of_signals {left right : Value} (signals : left.signals right = true) :
    left.MeetsSignaling right := by
  cases left with
  | list lefts =>
      cases right with
      | list rights =>
          rw [Value.signals, Bool.and_eq_true, beq_iff_eq, itemsSignal_iff] at signals
          obtain ⟨sameLength, leftBefore, left, leftAfter, rightBefore, right, rightAfter, rfl, rfl,
            sameBefore, signals⟩ := signals
          have meet := meetsSignaling_of_signals signals
          have sameLengths := sameBefore.length_eq
          rw [List.length_append, List.length_append, List.length_cons, List.length_cons] at sameLength
          exact .lists sameBefore meet (by omega)
      | _ => simp [Value.signals] at signals
  | tuple lefts =>
      cases right with
      | tuple rights =>
          rw [Value.signals, itemsSignal_iff] at signals
          obtain ⟨leftBefore, left, leftAfter, rightBefore, right, rightAfter, rfl, rfl, sameBefore,
            signals⟩ := signals
          exact .tuples sameBefore (meetsSignaling_of_signals signals)
      | _ => simp [Value.signals] at signals
  | map entries =>
      cases right with
      | map others =>
          rw [Value.signals, Bool.and_eq_true, beq_iff_eq, entriesSignal_iff] at signals
          obtain ⟨sameSize, before, entry, after, other, rfl, sameBefore, isFound, signals⟩ := signals
          exact .maps sameBefore isFound (meetsSignaling_of_signals signals) sameSize
      | _ => simp [Value.signals] at signals
  | reference leftId =>
      cases right with
      | reference rightId =>
          rw [Value.signals] at signals
          exact .references (meetsSignaling_of_signals signals)
      | _ => simp [Value.signals] at signals
  | bool _ | int _ | float _ | decimal _ =>
      cases isNumber : right.numeric? with
      | none =>
          simp only [Value.signals] at signals
          rw [isNumber] at signals
          simp [numeric?] at signals
      | some number =>
          rw [signals_of_numbers rfl isNumber, Bool.or_eq_true] at signals
          exact .numbers rfl isNumber signals
  | _ => simp [Value.signals, numeric?] at signals
termination_by sizeOf left
decreasing_by
  · subst_vars
    exact sizeOf_lt_list (by simp)
  · subst_vars
    exact sizeOf_lt_tuple (by simp)
  · subst_vars
    exact sizeOf_lt_map (List.mem_append_right _ List.mem_cons_self)
  · subst_vars
    simp

theorem signals_iff (left right : Value) :
    left.signals right = true ↔ left.MeetsSignaling right := by
  refine ⟨meetsSignaling_of_signals, fun meet => ?_⟩
  induction meet with
  | numbers leftIs rightIs isSignaling =>
      rwa [signals_of_numbers leftIs rightIs, Bool.or_eq_true]
  | lists sameBefore _ sameLength signals =>
      rw [Value.signals, Bool.and_eq_true, beq_iff_eq, itemsSignal_iff]
      have sameLengths := sameBefore.length_eq
      refine ⟨?_, _, _, _, _, _, _, rfl, rfl, sameBefore, signals⟩
      rw [List.length_append, List.length_append, List.length_cons, List.length_cons, sameLengths,
        sameLength]
  | tuples sameBefore _ signals =>
      rw [Value.signals, itemsSignal_iff]
      exact ⟨_, _, _, _, _, _, rfl, rfl, sameBefore, signals⟩
  | maps sameBefore isFound _ sameSize signals =>
      rw [Value.signals, Bool.and_eq_true, beq_iff_eq, entriesSignal_iff]
      exact ⟨sameSize, _, _, _, _, rfl, sameBefore, isFound, signals⟩
  | references _ signals => rwa [Value.signals]

/-- A whole number of too many digits is a part of the value. -/
inductive HoldsLongWhole : Value → Prop where
  | int {value : Int} (isLong : Nat.pow 10 wholeDigitLimit ≤ value.natAbs) : HoldsLongWhole (.int value)
  | inList {items : List Value} {item : Value} (member : item ∈ items) (holds : HoldsLongWhole item) :
      HoldsLongWhole (.list items)
  | inTuple {items : List Value} {item : Value} (member : item ∈ items) (holds : HoldsLongWhole item) :
      HoldsLongWhole (.tuple items)
  | inSet {items : List Value} {item : Value} (member : item ∈ items) (holds : HoldsLongWhole item) :
      HoldsLongWhole (.set items)
  | inKey {entries : List (Value × Value)} {entry : Value × Value} (member : entry ∈ entries)
      (holds : HoldsLongWhole entry.1) : HoldsLongWhole (.map entries)
  | inValue {entries : List (Value × Value)} {entry : Value × Value} (member : entry ∈ entries)
      (holds : HoldsLongWhole entry.2) : HoldsLongWhole (.map entries)
  | inReference {id : Value} (holds : HoldsLongWhole id) : HoldsLongWhole (.reference id)

theorem areWritable_eq_false_iff (items : List Value) :
    areWritable items = false ↔ ∃ item ∈ items, item.isWritable = false := by
  induction items with
  | nil => simp [areWritable]
  | cons item rest ih => simp [areWritable, Bool.and_eq_false_iff, -Bool.and_eq_false_imp, ih]

theorem entriesAreWritable_eq_false_iff (entries : List (Value × Value)) :
    entriesAreWritable entries = false ↔
      ∃ entry ∈ entries, entry.1.isWritable = false ∨ entry.2.isWritable = false := by
  induction entries with
  | nil => simp [entriesAreWritable]
  | cons entry rest ih => simp [entriesAreWritable, Bool.and_eq_false_iff, -Bool.and_eq_false_imp, ih]

theorem holdsLongWhole_of_not_isWritable {value : Value} (notWritable : value.isWritable = false) :
    value.HoldsLongWhole := by
  cases value with
  | int value =>
      rw [isWritable, isWritableWhole, decide_eq_false_iff_not, Nat.not_lt] at notWritable
      exact .int notWritable
  | list items =>
      rw [isWritable, areWritable_eq_false_iff] at notWritable
      obtain ⟨item, member, notWritable⟩ := notWritable
      exact .inList member (holdsLongWhole_of_not_isWritable notWritable)
  | tuple items =>
      rw [isWritable, areWritable_eq_false_iff] at notWritable
      obtain ⟨item, member, notWritable⟩ := notWritable
      exact .inTuple member (holdsLongWhole_of_not_isWritable notWritable)
  | set items =>
      rw [isWritable, areWritable_eq_false_iff] at notWritable
      obtain ⟨item, member, notWritable⟩ := notWritable
      exact .inSet member (holdsLongWhole_of_not_isWritable notWritable)
  | map entries =>
      rw [isWritable, entriesAreWritable_eq_false_iff] at notWritable
      obtain ⟨entry, member, keyNotWritable | valueNotWritable⟩ := notWritable
      · exact .inKey member (holdsLongWhole_of_not_isWritable keyNotWritable)
      · exact .inValue member (holdsLongWhole_of_not_isWritable valueNotWritable)
  | reference id =>
      rw [isWritable] at notWritable
      exact .inReference (holdsLongWhole_of_not_isWritable notWritable)
  | _ => simp [isWritable] at notWritable
termination_by sizeOf value
decreasing_by
  · subst_vars
    exact sizeOf_lt_list member
  · subst_vars
    exact sizeOf_lt_tuple member
  · subst_vars
    exact sizeOf_lt_set member
  · subst_vars
    exact sizeOf_key_lt_map member
  · subst_vars
    exact sizeOf_lt_map member
  · subst_vars
    simp

theorem isWritable_eq_false_iff (value : Value) : value.isWritable = false ↔ value.HoldsLongWhole := by
  refine ⟨holdsLongWhole_of_not_isWritable, fun holds => ?_⟩
  induction holds with
  | int isLong =>
      rw [isWritable, isWritableWhole, decide_eq_false_iff_not, Nat.not_lt]
      exact isLong
  | inList member _ ih | inTuple member _ ih | inSet member _ ih =>
      rw [isWritable, areWritable_eq_false_iff]
      exact ⟨_, member, ih⟩
  | inKey member _ ih =>
      rw [isWritable, entriesAreWritable_eq_false_iff]
      exact ⟨_, member, .inl ih⟩
  | inValue member _ ih =>
      rw [isWritable, entriesAreWritable_eq_false_iff]
      exact ⟨_, member, .inr ih⟩
  | inReference _ ih => rwa [isWritable]

end Value

end ConversionTracking
