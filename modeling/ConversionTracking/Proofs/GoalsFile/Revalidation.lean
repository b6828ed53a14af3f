import ConversionTracking.Proofs.GoalsFile.Placing

/-!
Validation settles a definition. The fields of a valid definition, written out in full or without those
that are null, are valid again and give the same definition with the same notices, whatever the fields
were first read from.
-/

namespace ConversionTracking

namespace GoalDefinition

variable {attributes : Entries} {definition : GoalDefinition}

theorem validate_of_reads (onlyFields : OnlyFields attributes)
    (reads : ofEntries attributes = .valid definition) (consistent : definition.IsConsistent) :
    validate attributes = ⟨.ok definition, definition.checkConsistency.notices⟩ := by
  have passes := (checkConsistency_eq_ok_iff definition).mpr consistent
  unfold validate
  rw [any_isNone_eq_false onlyFields.onlyNames, reads,
    (unexpected_eq_nil_iff onlyFields.onlyNames).mpr onlyFields]
  simp only [Bool.false_eq_true, if_false, Checked.issues, List.append_nil]
  cases checked : definition.checkConsistency with
  | mk result notices =>
      rw [checked] at passes
      obtain rfl : result = .ok () := passes
      exact congrArg (Outcome.mk _) (List.append_nil notices)

theorem validate_of_presented (wellFormed : definition.IsWellFormed)
    (consistent : definition.IsConsistent) (onlyFields : OnlyFields attributes)
    (presented : definition.IsPresentedBy attributes) :
    validate attributes = ⟨.ok definition, definition.checkConsistency.notices⟩ :=
  validate_of_reads onlyFields ((ofEntries_eq_valid_iff _ _).mpr (wellFormed.isReadFrom presented))
    consistent

theorem isPresentedBy_givenFields (definition : GoalDefinition) :
    definition.IsPresentedBy (GoalsFile.givenFields definition) := by
  have presented := GoalsFile.isPresentedBy_scopedAttributes definition .everything
  rw [placedIn_everything] at presented
  exact presented

theorem validate_presented_again (valid : (validate attributes).result = .ok definition)
    {again : Entries} (onlyFields : OnlyFields again) (presented : definition.IsPresentedBy again) :
    validate again = validate attributes := by
  obtain ⟨fieldsOnly, reads, consistent⟩ := (validate_eq_ok_iff _ _).mp valid
  have wellFormed := (isWellFormed_of_validate valid).1
  rw [validate_of_presented wellFormed consistent onlyFields presented,
    validate_of_reads fieldsOnly reads consistent]

theorem validate_again (valid : (validate attributes).result = .ok definition) :
    definition.toEntries.names = fieldNames ∧
      validate definition.toEntries = validate attributes ∧
      validate (GoalsFile.givenFields definition) = validate attributes :=
  ⟨rfl,
    validate_presented_again valid definition.onlyFields_toEntries definition.isPresentedBy_toEntries,
    validate_presented_again valid (GoalsFile.onlyFields_givenFields definition)
      definition.isPresentedBy_givenFields⟩

def looseSignup : Entries :=
  [(.text "name", .bytes "Signup".toUTF8.toList), (.text "type", .text "event"),
    (.text "conditions", .map [(.bytes "event_name".toUTF8.toList, .text "signup")]),
    (.text "value_type", .text "fixed"), (.text "fixed_value", .text " 12.50 "),
    (.text "allow_multiple", .text "YES"), (.text "is_active", .int 1),
    (.text "funnel_steps", .tuple [.map [(.text "type", .text "video")]]),
    (.text "site_id", .text "007")]

theorem looseSignup_validated_again :
    ∃ definition, (validate looseSignup).result = .ok definition ∧ definition.name = "Signup" ∧
      definition.allowMultiple = true ∧ definition.siteId = some 7 ∧
      validate definition.toEntries = validate looseSignup ∧
      validate (GoalsFile.givenFields definition) = validate looseSignup := by
  have reads : (validate looseSignup).result.map
      (fun definition => (definition.name, definition.allowMultiple, definition.siteId)) =
        .ok ("Signup", true, some 7) := by
    decide +kernel
  cases valid : (validate looseSignup).result with
  | error fault =>
      rw [valid] at reads
      contradiction
  | ok definition =>
      rw [valid] at reads
      simp only [Except.map, Except.ok.injEq, Prod.mk.injEq] at reads
      obtain ⟨name, multiple, site⟩ := reads
      obtain ⟨_, inFull, given⟩ := validate_again valid
      exact ⟨definition, rfl, name, multiple, site, inFull, given⟩

end GoalDefinition

end ConversionTracking
