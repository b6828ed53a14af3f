import ConversionTracking.Proofs.Condition.Paths

/-!
Paths joined by a point. The segments of the joined path are those of the first path and then those of
the second one, so that it is followed from what the first path finds. When that is null, because the
first path leads nowhere, so does the joined one.
-/

namespace ConversionTracking

theorem splitAtChar_append_cons (separator : Char) (front back : List Char) :
    splitAtChar separator (front ++ separator :: back) =
      splitAtChar separator front ++ splitAtChar separator back := by
  simp only [splitAtChar_eq_splitOn]
  exact List.splitOn_append_cons_self front back

namespace Value

theorem steps_append (value : Value) (front back : List String) :
    value.steps (front ++ back) = value.steps front >>= fun found => found.steps back := by
  induction front generalizing value with
  | nil => rfl
  | cons segment rest ih =>
      rw [List.cons_append, steps, steps]
      cases value.step segment with
      | error fault => rfl
      | ok next => exact ih next

theorem segments_joined (front back : String) :
    (splitAtChar '.' (front ++ "." ++ back).toList).map String.ofList =
      (splitAtChar '.' front.toList).map String.ofList ++
        (splitAtChar '.' back.toList).map String.ofList := by
  have point : ".".toList = ['.'] := rfl
  rw [String.toList_append, String.toList_append, point, List.append_assoc, List.singleton_append,
    splitAtChar_append_cons, List.map_append]

/-- A path joined from two finds what the second one finds in what the first one finds, null included,
and fails just as they do one after the other. -/
theorem atPath_joined (value : Value) (front back : String) :
    value.atPath (front ++ "." ++ back) =
      value.atPath front >>= fun found => found.atPath back := by
  rw [atPath, segments_joined, steps_append]
  rfl

end Value

end ConversionTracking
