import ConversionTracking.Proofs.Funnel.Proportions

/-!
The steps at which most visitors are lost. They are the first of the later steps in one strict order, by
falling drop-off and then by position, which sorting them stably gives.
-/

namespace ConversionTracking

open Binary64

theorem pairwise_mergeSort_of_keys {Item : Type} (before : Item → Item → Bool)
    (transitive : ∀ first second third, before first second = true → before second third = true →
      before first third = true)
    (total : ∀ first second, (before first second || before second first) = true)
    {key : Item → Nat} {items : List Item}
    (increasing : items.Pairwise fun left right => key left < key right) :
    (items.mergeSort before).Pairwise fun left right =>
      before left right = true ∧ (before right left = true → key left < key right) := by
  induction items with
  | nil =>
      rw [List.mergeSort_nil]
      exact .nil
  | cons item rest ih =>
      obtain ⟨lower, higher, sorted, restSorted, notBefore⟩ :=
        List.mergeSort_cons transitive total item rest
      obtain ⟨itemFirst, restIncreasing⟩ := List.pairwise_cons.mp increasing
      have restPairwise := ih restIncreasing
      have ordered := List.pairwise_mergeSort transitive total (item :: rest)
      rw [restSorted, List.pairwise_append] at restPairwise
      rw [sorted, List.pairwise_append, List.pairwise_cons] at ordered
      obtain ⟨lowerPairwise, higherPairwise, across⟩ := restPairwise
      rw [sorted, List.pairwise_append, List.pairwise_cons]
      refine ⟨lowerPairwise, ⟨fun other isHigher => ?_, higherPairwise⟩,
        fun other isLower another isAfter => ?_⟩
      · -- The item stood before all others.
        have isSorted : other ∈ rest.mergeSort before := by
          rw [restSorted]
          exact List.mem_append_right lower isHigher
        have isRest := List.mem_mergeSort.mp isSorted
        exact ⟨ordered.2.1.1 other isHigher, fun _ => itemFirst other isRest⟩
      · rcases List.mem_cons.mp isAfter with rfl | isHigher
        · refine ⟨ordered.2.2 other isLower _ List.mem_cons_self, fun isBefore => ?_⟩
          have notBoth := notBefore other isLower
          simp [isBefore] at notBoth
        · exact across other isLower another isHigher

namespace StepResult

/-- More visitors are lost at the one step than at the other, in percent, or as many and it comes
first. -/
def LosesMore (before after : StepResult) : Prop :=
  after.dropoffRate.less before.dropoffRate = true ∨
    after.dropoffRate.equals before.dropoffRate = true ∧ before.step < after.step

def dropoffPlace (result : StepResult) : Int := result.dropoffRate.place?.getD 0

theorem place?_dropoffRate {result : StepResult} (isNumber : result.dropoffRate ≠ .nan) :
    result.dropoffRate.place? = some result.dropoffPlace := by
  obtain ⟨place, isPlace⟩ := exists_place? isNumber
  rw [dropoffPlace, isPlace]
  rfl

theorem losesMore_of_places {before after : StepResult} (beforeIsNumber : before.dropoffRate ≠ .nan)
    (afterIsNumber : after.dropoffRate ≠ .nan) (ordered : after.dropoffPlace ≤ before.dropoffPlace)
    (ties : before.dropoffPlace ≤ after.dropoffPlace → before.step < after.step) :
    before.LosesMore after := by
  have isOrder := compare?_of_place? (place?_dropoffRate afterIsNumber)
    (place?_dropoffRate beforeIsNumber)
  rcases Int.lt_or_eq_of_le ordered with below | same
  · left
    rw [less_of_compare? isOrder, compare_lt_iff_lt.mpr below]
    rfl
  · right
    refine ⟨?_, ties (Int.le_of_eq same.symm)⟩
    rw [equals_of_compare? isOrder, compare_eq_iff_eq.mpr same]
    rfl

end StepResult

namespace FunnelReport

structure Ranks (report : FunnelReport) (limit : Int) (ranked : List StepResult) : Prop where
  length : (ranked.length : Int) = min (max limit 0) ((report.steps.length : Int) - 1)
  areLater : ranked ⊆ report.steps.tail
  distinct : (ranked.map StepResult.step).Nodup
  ordered : ranked.Pairwise StepResult.LosesMore
  others : ∀ kept ∈ ranked, ∀ other ∈ report.steps.tail, other ∉ ranked → kept.LosesMore other

variable {report : FunnelReport} {count : Nat}

theorem increasing_of_positions (positions : report.steps.map StepResult.step = List.range' 1 count) :
    report.steps.tail.Pairwise fun left right => left.step < right.step := by
  have increasing : (report.steps.map StepResult.step).Pairwise (· < ·) := by
    rw [positions]
    exact List.pairwise_lt_range'
  exact (List.pairwise_map.mp increasing).tail

theorem ranking_pairwise (areNumbers : ∀ result ∈ report.steps, result.dropoffRate ≠ .nan)
    (positions : report.steps.map StepResult.step = List.range' 1 count) :
    report.ranking.Pairwise StepResult.LosesMore := by
  let before (left right : StepResult) : Bool := right.dropoffPlace ≤ left.dropoffPlace
  have isNumber {result : StepResult} (isLater : result ∈ report.steps.tail) :
      result.dropoffRate ≠ .nan := areNumbers result (List.mem_of_mem_tail isLater)
  have byPlace : report.ranking = report.steps.tail.mergeSort before := by
    have sorted := List.map_mergeSort (f := id) (s := before) (l := report.steps.tail)
      (r := fun left right => right.dropoffRate.lessOrEqual left.dropoffRate) ?_
    · rw [List.map_id, List.map_id] at sorted
      exact sorted
    · intro left isLeft right isRight
      rw [Bool.eq_iff_iff, lessOrEqual_iff_of_place?
        (StepResult.place?_dropoffRate (isNumber isRight))
        (StepResult.place?_dropoffRate (isNumber isLeft))]
      exact decide_eq_true_iff.symm
  have stable := pairwise_mergeSort_of_keys before
    (by simp only [before, decide_eq_true_eq]; omega)
    (by simp only [before, Bool.or_eq_true, decide_eq_true_eq]; omega)
    (increasing_of_positions positions)
  rw [byPlace]
  refine stable.imp_of_mem fun {left right} isLeft isRight ordered => ?_
  simp only [before, decide_eq_true_eq] at ordered
  exact StepResult.losesMore_of_places (isNumber (List.mem_mergeSort.mp isLeft))
    (isNumber (List.mem_mergeSort.mp isRight)) ordered.1 ordered.2

theorem ranks_take (areNumbers : ∀ result ∈ report.steps, result.dropoffRate ≠ .nan)
    (positions : report.steps.map StepResult.step = List.range' 1 count) (positive : 0 < count)
    (limit : Int) : report.Ranks limit (report.ranking.take limit.toNat) := by
  have isPerm : report.ranking.Perm report.steps.tail := List.mergeSort_perm _ _
  have ordered := ranking_pairwise areNumbers positions
  have steps := congrArg List.length positions
  rw [List.length_map, List.length_range'] at steps
  constructor
  case length =>
    rw [List.length_take, isPerm.length_eq, List.length_tail]
    omega
  case areLater =>
    intro result isRanked
    exact isPerm.subset (List.mem_of_mem_take isRanked)
  case distinct =>
    have distinct : (report.steps.tail.map StepResult.step).Nodup :=
      List.pairwise_map.mpr ((increasing_of_positions positions).imp Nat.ne_of_lt)
    exact (((isPerm.map _).nodup_iff).mpr distinct).sublist ((List.take_sublist _ _).map _)
  case ordered => exact ordered.sublist (List.take_sublist _ _)
  case others =>
    intro kept isKept other isLater notKept
    rw [← List.take_append_drop limit.toNat report.ranking, List.pairwise_append] at ordered
    have isRanked : other ∈ report.ranking := isPerm.mem_iff.mpr isLater
    rw [← List.take_append_drop limit.toNat report.ranking, List.mem_append] at isRanked
    exact ordered.2.2 kept isKept other (isRanked.resolve_left notKept)

end FunnelReport

namespace Funnel

variable {funnel : Funnel} {count : VisitorCount} {range : DateRange} {report : FunnelReport}

theorem dropoffRate_ne_nan (isReport : (funnel.analyze count range).result = .ok report)
    {result : StepResult} (isResult : result ∈ report.steps) : result.dropoffRate ≠ .nan := by
  obtain ⟨steps, visitors, _, _, rfl⟩ := analyze_eq_ok_iff.mp isReport
  obtain ⟨step, _, position, previous, rfl⟩ := mem_stepResults isResult
  cases previous with
  | none =>
      simp only [stepResult, Option.isNone_none, if_true]
      exact ne_nan_of_place? rfl
  | some previous =>
      rw [dropoffRate_stepResult]
      exact remainder_ne_nan (ratePercent_ne_nan _ _)

theorem result_bottlenecks (isReport : (funnel.analyze count range).result = .ok report)
    (limit : Int) :
    (funnel.bottlenecks count range limit).result = .ok (report.ranking.take limit.toNat) := by
  rw [bottlenecks]
  by_cases none : limit ≤ 0
  · rw [if_pos none, Int.toNat_of_nonpos none, List.take_zero]
    rfl
  · rw [if_neg none, Outcome.result_bind, isReport]
    rfl

/-- The bottlenecks of a funnel that can be analyzed are those of its later steps that lose most
visitors, in that order, as many as are asked for and no more than there are. Asking for more keeps what
comes first. -/
theorem bottlenecks_rank (isReport : (funnel.analyze count range).result = .ok report) :
    ∃ raws, funnel.steps = .list raws ∧
      report.steps.map StepResult.step = List.range' 1 raws.length ∧
      ∀ limit, ∃ ranked, (funnel.bottlenecks count range limit).result = .ok ranked ∧
        report.Ranks limit ranked ∧
        ∀ more, limit ≤ more → ∃ longer,
          (funnel.bottlenecks count range more).result = .ok longer ∧ ranked <+: longer := by
  obtain ⟨raws, isList, notEmpty, positions⟩ := positions_of_analyze isReport
  refine ⟨raws, isList, positions, fun limit => ⟨_, result_bottlenecks isReport limit,
    FunnelReport.ranks_take (fun _ => dropoffRate_ne_nan isReport) positions
      (List.length_pos_of_ne_nil notEmpty) limit, fun more atMost => ?_⟩⟩
  refine ⟨_, result_bottlenecks isReport more, List.take_prefix_take_left ?_⟩
  omega

theorem calls_before_visits :
    let funnel : Funnel := { goalId := 1, goalName := "Calls", steps := .list callSteps }
    ∃ report call longer,
      (funnel.analyze (listedCount [4, 2]) Database.signupRange).result = .ok report ∧
      (funnel.bottlenecks (listedCount [4, 2]) Database.signupRange 1).result = .ok [call] ∧
      call.step = 2 ∧ report.Ranks 1 [call] ∧
      (funnel.bottlenecks (listedCount [4, 2]) Database.signupRange 5).result = .ok longer ∧
      [call] <+: longer := by
  intro funnel
  have known : (funnel.analyze (listedCount [4, 2]) Database.signupRange).result.map
      (·.steps.map fun result => (result.step, result.dropoffRate)) =
        .ok [(1, .zero), (2, hundred), (3, hundred)] := by
    decide +kernel
  cases isReport : (funnel.analyze (listedCount [4, 2]) Database.signupRange).result with
  | error fault =>
      rw [isReport] at known
      cases known
  | ok report =>
      rw [isReport] at known
      obtain ⟨first, _, steps, _, known⟩ := List.map_eq_cons_iff.mp (Except.ok.inj known)
      obtain ⟨call, _, rfl, isCall, known⟩ := List.map_eq_cons_iff.mp known
      obtain ⟨visit, _, rfl, isVisit, known⟩ := List.map_eq_cons_iff.mp known
      obtain rfl := List.map_eq_nil_iff.mp known
      obtain ⟨callStep, callDropoff⟩ := Prod.mk.inj isCall
      obtain ⟨visitStep, visitDropoff⟩ := Prod.mk.inj isVisit
      obtain ⟨_, _, _, ranks⟩ := bottlenecks_rank isReport
      obtain ⟨ranked, isRanked, ranks, grows⟩ := ranks 1
      obtain ⟨longer, isLonger, isPrefix⟩ := grows 5 (by decide)
      obtain ⟨kept, rfl⟩ : ∃ kept, ranked = [kept] := by
        have length := ranks.length
        rw [steps] at length
        exact List.length_eq_one_iff.mp (by simpa using length)
      have isLater := ranks.areLater List.mem_cons_self
      rw [steps, List.tail_cons] at isLater
      have isFirst : kept = call := by
        rcases List.mem_cons.mp isLater with isCall | isOther
        · exact isCall
        · obtain rfl := List.mem_singleton.mp isOther
          have notKept : call ∉ [kept] := by
            intro same
            rw [List.mem_singleton.mp same] at callStep
            omega
          rcases ranks.others kept List.mem_cons_self call (by rw [steps]; simp) notKept with
            isLess | ⟨_, isBefore⟩
          · rw [callDropoff, visitDropoff] at isLess
            exact absurd isLess (by decide +kernel)
          · omega
      subst isFirst
      exact ⟨report, kept, longer, rfl, isRanked, callStep, ranks, isLonger, isPrefix⟩

end Funnel

end ConversionTracking
