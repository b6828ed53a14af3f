import ConversionTracking.Proofs.Condition.Comparisons
import ConversionTracking.Proofs.Condition.Operators

/-!
The operators agree with each other. They share one equality, which the negations deny and collections
test their items by, and one order of numbers. Only a signaling NaN among the parts of two containers
keeps them from comparing readable values, and then a value is told neither equal nor unequal.
-/

namespace ConversionTracking

namespace Value

theorem Collects.unique {target : Value} {first second : List Value} (isFirst : target.Collects first)
    (isSecond : target.Collects second) : first = second := by
  cases isFirst <;> cases isSecond <;> rfl

section

variable {observed target : Value} (observedReadable : ¬observed.IsUnreadable)
  (targetReadable : ¬target.IsUnreadable)

include observedReadable targetReadable

theorem looseEquals_isOk_iff :
    (∃ answer, observed.looseEquals target = .ok answer) ↔ ¬observed.MeetsSignaling target := by
  apply isOk_iff_of_error_iff
  rw [looseEquals_error_iff]
  constructor
  · rintro ⟨_, _, fails⟩
    exact (fails.resolve_left observedReadable).resolve_left targetReadable
  · intro meet
    refine ⟨?_, ?_, .inr (.inr meet)⟩
    · rintro rfl
      cases meet with
      | numbers isNumber _ _ => cases isNumber
    · rintro rfl
      cases meet with
      | numbers _ isNumber _ => cases isNumber

theorem looseEquals_eq_false_iff :
    observed.looseEquals target = .ok false ↔
      ¬observed.Passes (.text "eq") target ∧ ¬observed.MeetsSignaling target := by
  rw [passes_eq_iff, ← looseEquals_isOk_iff observedReadable targetReadable]
  cases observed.looseEquals target with
  | error fault => simp
  | ok answer => cases answer <;> simp

theorem passes_neq_iff_of_readable :
    observed.Passes (.text "neq") target ↔
      ¬observed.Passes (.text "eq") target ∧ ¬observed.MeetsSignaling target := by
  rw [passes_neq_iff, looseEquals_eq_false_iff observedReadable targetReadable]

end

theorem not_isUnreadable_of_toNumber {value : Value} {reading : Option Binary64}
    (isRead : value.toNumber = .ok reading) : ¬value.IsUnreadable := by
  rw [← toNumber_error_iff, isRead]
  nofun

def HasNumber (value : Value) : Prop :=
  ∃ number, value.toNumber = .ok (some number) ∧ number ≠ .nan

structure AreOrdered (observed target : Value) : Prop where
  exactlyOne : ∃ order : Ordering,
    (observed.Passes (.text "lt") target ↔ order = .lt) ∧
      (observed.Passes (.text "eq") target ↔ order = .eq) ∧
      (observed.Passes (.text "gt") target ↔ order = .gt)
  gte : observed.Passes (.text "gte") target ↔
    observed.Passes (.text "gt") target ∨ observed.Passes (.text "eq") target
  lte : observed.Passes (.text "lte") target ↔
    observed.Passes (.text "lt") target ∨ observed.Passes (.text "eq") target

theorem ComparesAs.areOrdered {observed target : Value} {order : Ordering}
    (compares : ComparesAs observed target order) : AreOrdered observed target := by
  constructor
  · refine ⟨order, ?_⟩
    rw [Passes, Passes, Passes, compares.lt, compares.eq, compares.gt]
    cases order <;> simp
  · rw [Passes, Passes, Passes, compares.gte, compares.gt, compares.eq]
    cases order <;> simp
  · rw [Passes, Passes, Passes, compares.lte, compares.lt, compares.eq]
    cases order <;> simp

theorem HasNumber.areOrdered {observed target : Value} (observedHas : observed.HasNumber)
    (targetHas : target.HasNumber) : AreOrdered observed target := by
  obtain ⟨left, observedRead, leftIsNumber⟩ := observedHas
  obtain ⟨right, targetRead, rightIsNumber⟩ := targetHas
  obtain ⟨order, isOrder, isSwapped⟩ := Binary64.exists_compare? leftIsNumber rightIsNumber
  exact (comparesAs_of_compare? observedRead targetRead isOrder isSwapped).areOrdered

theorem passes_gt_iff_lt (observed target : Value) :
    observed.Passes (.text "gt") target ↔ target.Passes (.text "lt") observed := by
  rw [passes_gt_iff, passes_lt_iff]
  constructor
  · rintro ⟨left, right, observedRead, targetRead, less⟩
    exact ⟨right, left, targetRead, observedRead, less⟩
  · rintro ⟨right, left, targetRead, observedRead, less⟩
    exact ⟨left, right, observedRead, targetRead, less⟩

theorem hasNumber_of_passes {observed target : Value}
    (passes : observed.Passes (.text "gt") target ∨ observed.Passes (.text "gte") target ∨
      observed.Passes (.text "lt") target ∨ observed.Passes (.text "lte") target) :
    observed.HasNumber ∧ target.HasNumber := by
  rw [passes_gt_iff, passes_gte_iff, passes_lt_iff, passes_lte_iff] at passes
  have inOrder : ∃ left right, observed.toNumber = .ok (some left) ∧
      target.toNumber = .ok (some right) ∧
      (right.lessOrEqual left = true ∨ left.lessOrEqual right = true) := by
    rcases passes with holds | holds | holds | holds
    all_goals obtain ⟨left, right, observedRead, targetRead, holds⟩ := holds
    · exact ⟨left, right, observedRead, targetRead, .inl (Binary64.lessOrEqual_of_less holds)⟩
    · exact ⟨left, right, observedRead, targetRead, .inl holds⟩
    · exact ⟨left, right, observedRead, targetRead, .inr (Binary64.lessOrEqual_of_less holds)⟩
    · exact ⟨left, right, observedRead, targetRead, .inr holds⟩
  obtain ⟨left, right, observedRead, targetRead, holds⟩ := inOrder
  rcases holds with holds | holds
  · obtain ⟨rightIsNumber, leftIsNumber⟩ := Binary64.isNumber_of_lessOrEqual holds
    exact ⟨⟨left, observedRead, leftIsNumber⟩, right, targetRead, rightIsNumber⟩
  · obtain ⟨leftIsNumber, rightIsNumber⟩ := Binary64.isNumber_of_lessOrEqual holds
    exact ⟨⟨left, observedRead, leftIsNumber⟩, right, targetRead, rightIsNumber⟩

section

variable {observed target : Value} {items : List Value}
  (observedReadable : ¬observed.IsUnreadable) (collects : target.Collects items)
  (areReadable : ∀ item ∈ items, ¬item.IsUnreadable)

include observedReadable collects areReadable

theorem passes_isIn_iff_of_readable :
    observed.Passes (.text "in") target ↔
      observed ≠ .null ∧ ∃ before item after, items = before ++ item :: after ∧
        (∀ earlier ∈ before, ¬observed.MeetsSignaling earlier) ∧
        observed.Passes (.text "eq") item := by
  have answered : ∀ item ∈ items,
      (∃ answer, observed.looseEquals item = .ok answer) ↔ ¬observed.MeetsSignaling item :=
    fun item member => looseEquals_isOk_iff observedReadable (areReadable item member)
  rw [passes_isIn_iff]
  constructor
  · rintro ⟨others, collectsOthers, given, anyEqual⟩
    obtain rfl := collects.unique collectsOthers
    obtain ⟨before, item, after, rfl, compared, same⟩ :=
      (Operator.anyEqual_eq_true_iff _ _).mp anyEqual
    refine ⟨given, before, item, after, rfl, fun earlier member => ?_, (passes_eq_iff _ _).mpr same⟩
    exact (answered earlier (List.mem_append_left _ member)).mp (compared earlier member)
  · rintro ⟨given, before, item, after, rfl, noSignaling, same⟩
    refine ⟨_, collects, given, (Operator.anyEqual_eq_true_iff _ _).mpr
      ⟨before, item, after, rfl, fun earlier member => ?_, (passes_eq_iff _ _).mp same⟩⟩
    exact (answered earlier (List.mem_append_left _ member)).mpr (noSignaling earlier member)

theorem passes_notIn_iff_of_readable :
    observed.Passes (.text "not_in") target ↔
      ∀ item ∈ items,
        ¬observed.Passes (.text "eq") item ∧ ¬observed.MeetsSignaling item := by
  have different : ∀ item ∈ items, observed.looseEquals item = .ok false ↔
      ¬observed.Passes (.text "eq") item ∧ ¬observed.MeetsSignaling item :=
    fun item member => looseEquals_eq_false_iff observedReadable (areReadable item member)
  rw [passes_notIn_iff]
  constructor
  · rintro ⟨others, collectsOthers, noneEqual⟩ item member
    obtain rfl := collects.unique collectsOthers
    exact (different item member).mp ((Operator.anyEqual_eq_false_iff _ _).mp noneEqual item member)
  · intro noneEqual
    refine ⟨items, collects, (Operator.anyEqual_eq_false_iff _ _).mpr fun item member => ?_⟩
    exact (different item member).mpr (noneEqual item member)

end

/-- The operators agree on one equality and one order. Two readable values are unequal when they are not
equal, numbers are in exactly one order, other values in none, and collections hold what some item
equals. A signaling NaN among the parts of two containers alone leaves them neither equal nor
unequal. -/
theorem operators_cohere {observed target : Value} (observedReadable : ¬observed.IsUnreadable)
    (targetReadable : ¬target.IsUnreadable) :
    (observed.Passes (.text "neq") target ↔
        ¬observed.Passes (.text "eq") target ∧ ¬observed.MeetsSignaling target) ∧
      (observed.HasNumber → target.HasNumber → AreOrdered observed target) ∧
      (observed.Passes (.text "gt") target ↔ target.Passes (.text "lt") observed) ∧
      (¬observed.HasNumber ∨ ¬target.HasNumber →
        ¬observed.Passes (.text "gt") target ∧ ¬observed.Passes (.text "gte") target ∧
          ¬observed.Passes (.text "lt") target ∧ ¬observed.Passes (.text "lte") target) ∧
      ∀ items, target.Collects items → (∀ item ∈ items, ¬item.IsUnreadable) →
        (observed.Passes (.text "in") target ↔
          observed ≠ .null ∧ ∃ before item after, items = before ++ item :: after ∧
            (∀ earlier ∈ before, ¬observed.MeetsSignaling earlier) ∧
            observed.Passes (.text "eq") item) ∧
        (observed.Passes (.text "not_in") target ↔
          ∀ item ∈ items,
            ¬observed.Passes (.text "eq") item ∧ ¬observed.MeetsSignaling item) := by
  refine ⟨passes_neq_iff_of_readable observedReadable targetReadable,
    fun observedHas targetHas => observedHas.areOrdered targetHas, passes_gt_iff_lt _ _, ?_, ?_⟩
  · intro noNumber
    have noneHolds := mt (@hasNumber_of_passes observed target) (not_and_or.mpr noNumber)
    simpa only [not_or] using noneHolds
  · intro items collects areReadable
    exact ⟨passes_isIn_iff_of_readable observedReadable collects areReadable,
      passes_notIn_iff_of_readable observedReadable collects areReadable⟩

theorem seven_coheres :
    let seven := Value.decimal (.finite false 700 (-2))
    let lower := Value.text "-1e3"
    let texts := [Value.text "none", .text " 7.0 "]
    (¬seven.IsUnreadable ∧ ¬lower.IsUnreadable ∧ seven.HasNumber ∧ lower.HasNumber ∧
        ¬(Value.list texts).IsUnreadable ∧ (Value.list texts).Collects texts ∧
        ∀ item ∈ texts, ¬item.IsUnreadable) ∧
      AreOrdered seven lower ∧
      (seven.Passes (.text "neq") lower ↔
        ¬seven.Passes (.text "eq") lower ∧ ¬seven.MeetsSignaling lower) ∧
      (seven.Passes (.text "in") (.list texts) ↔
        seven ≠ .null ∧ ∃ before item after, texts = before ++ item :: after ∧
          (∀ earlier ∈ before, ¬seven.MeetsSignaling earlier) ∧
          seven.Passes (.text "eq") item) := by
  intro seven lower texts
  have lowerRead : lower.toNumber = .ok (some (.ofDecimal true 1 3)) := by decide +kernel
  have blankRead : toNumber (.text " 7.0 ") = .ok (some (.ofDecimal false 70 (-1))) := by
    decide +kernel
  have noneRead : toNumber (.text "none") = .ok none := by decide +kernel
  have sevenReadable : ¬seven.IsUnreadable := not_isUnreadable_of_toNumber rfl
  have sevenHas : seven.HasNumber := ⟨_, rfl, Binary64.ofDecimal_ne_nan _ _ _⟩
  have lowerHas : lower.HasNumber := ⟨_, lowerRead, Binary64.ofDecimal_ne_nan _ _ _⟩
  have lowerReadable : ¬lower.IsUnreadable := not_isUnreadable_of_toNumber lowerRead
  have textsReadable : ∀ item ∈ texts, ¬item.IsUnreadable := by
    simp only [texts, List.forall_mem_cons]
    exact ⟨not_isUnreadable_of_toNumber noneRead, not_isUnreadable_of_toNumber blankRead,
      List.forall_mem_nil _⟩
  have listReadable : ¬(Value.list texts).IsUnreadable := not_isUnreadable_of_toNumber rfl
  have beside := operators_cohere sevenReadable lowerReadable
  have among := operators_cohere sevenReadable listReadable
  exact ⟨⟨sevenReadable, lowerReadable, sevenHas, lowerHas, listReadable, .list texts,
      textsReadable⟩,
    beside.2.1 sevenHas lowerHas, beside.1, (among.2.2.2.2 texts (.list texts) textsReadable).1⟩

/-- Two lists, one with a signaling NaN, are told neither equal nor unequal. -/
theorem signaling_part_undecided :
    ¬∀ observed target : Value, ¬observed.IsUnreadable → ¬target.IsUnreadable →
      (observed.Passes (.text "neq") target ↔ ¬observed.Passes (.text "eq") target) := by
  intro negates
  have fails : looseEquals (.list [.decimal (.nan false true [])]) (.list [.int 1]) =
      .error .signalingCompared := by decide +kernel
  have notEqual : ¬Passes (.list [.decimal (.nan false true [])]) (.text "eq") (.list [.int 1]) := by
    rw [passes_eq_iff, fails]
    nofun
  have unequal := (negates _ _ (by rintro ⟨⟩) (by rintro ⟨⟩)).mpr notEqual
  rw [passes_neq_iff, fails] at unequal
  cases unequal

end Value

end ConversionTracking
