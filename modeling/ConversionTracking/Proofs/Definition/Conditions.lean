import ConversionTracking.Definition.Conditions
import ConversionTracking.Proofs.Definition.Field
import ConversionTracking.Proofs.Store.Column

/-!
Conditions that could be read can still be read from what is stored for them, but for a threshold that
an equal number of another kind stands for and that is too large for its field.
-/

namespace ConversionTracking

namespace FieldKind

open Column

variable {value content : Value}

theorem isValid_text_iff (value : Value) : (text value).IsValid ↔ (textual? value).isSome := by
  unfold text Checked.IsValid
  cases textual? value <;> simp [Checked.refuse]

theorem isValid_text_of_holds (holds : Holds value content) (isValid : (text value).IsValid) :
    (text content).IsValid := by
  cases value with
  | text text =>
      rw [(holds.eq_text_iff text).mpr rfl]
      exact isValid
  | bytes bytes =>
      cases holds with
      | written isWritten => simp [Value.document?] at isWritten
      | equal isDocument same =>
          cases content <;>
            simp [Value.equals, Value.equalScalars, Value.numeric?, Value.IsDocument,
              Value.document?] at same isDocument
  | _ => simp [isValid_text_iff, textual?] at isValid

theorem isValid_fields_of_holds (holds : Holds value content) (isValid : (fields value).IsValid) :
    (fields content).IsValid := by
  cases value with
  | map entries =>
      obtain ⟨contents, distinct, rfl, _⟩ := holds.of_map
      exact ⟨contents, fields_toValue distinct⟩
  | _ => simp [fields, Checked.refuse, Checked.IsValid] at isValid

theorem isValid_choice_iff (expected : String) (value : Value) :
    (choice expected value).IsValid ↔ value = .text expected := by
  cases value with
  | text given =>
      unfold choice Checked.IsValid
      by_cases same : given = expected <;> simp [same, Checked.refuse]
  | _ => simp [choice, Checked.refuse, Checked.IsValid]

theorem isValid_choice_of_holds (expected : String) (holds : Holds value content)
    (isValid : (choice expected value).IsValid) : (choice expected content).IsValid := by
  rw [isValid_choice_iff] at isValid ⊢
  exact (holds.eq_text_iff expected).mpr isValid

theorem isValid_number_iff (value : Value) :
    (number value).IsValid ↔ ∃ result, readNumber value = .ok result := by
  simp [number, Checked.IsValid]

theorem isValid_whole_iff (value : Value) :
    (whole value).IsValid ↔ ∃ result, readWhole value = .ok result := by
  simp [whole, Checked.IsValid]

theorem isValid_number_of_holds (holds : Holds value content) (isValid : (number value).IsValid) :
    (number content).IsValid ∨ ∃ whole, content = .int whole ∧ Binary64.ofInt? whole = none := by
  rw [isValid_number_iff] at isValid ⊢
  obtain ⟨result, reads⟩ := isValid
  cases content with
  | null =>
      rw [holds.eq_null_iff.mp rfl] at reads
      cases reads
  | text text =>
      rw [(holds.eq_text_iff text).mp rfl] at reads
      exact Or.inl ⟨result, reads⟩
  | bool value => exact Or.inl ⟨_, by rw [readNumber]⟩
  | float value => exact Or.inl ⟨value, by rw [readNumber]⟩
  | int whole =>
      cases isNumber : Binary64.ofInt? whole with
      | none => exact Or.inr ⟨whole, rfl, isNumber⟩
      | some number => exact Or.inl ⟨number, by simp [readNumber, isNumber]⟩
  | list items =>
      obtain ⟨others, rfl | rfl, _⟩ := holds.list_of_list <;> cases reads
  | map entries =>
      obtain ⟨others, rfl, _⟩ := holds.map_of_map
      cases reads
  | _ =>
      have isDocument := holds.isDocument
      simp [Value.IsDocument, Value.document?] at isDocument

theorem isValid_whole_of_holds (holds : Holds value content) (isValid : (whole value).IsValid) :
    (whole content).IsValid ∨
      ∃ number, content = .float number ∧ wholeOfBinary number = .error .wholeTooLong := by
  rw [isValid_whole_iff] at isValid ⊢
  obtain ⟨result, reads⟩ := isValid
  cases content with
  | null =>
      rw [holds.eq_null_iff.mp rfl] at reads
      cases reads
  | text text =>
      rw [(holds.eq_text_iff text).mp rfl] at reads
      exact Or.inl ⟨_, reads⟩
  | bool value => exact Or.inl ⟨_, rfl⟩
  | int value => exact Or.inl ⟨_, rfl⟩
  | float number =>
      obtain ⟨other, isNumber, sameValue⟩ := holds.numeric? rfl
      have isWhole := sameValue.trans (rational?_of_readWhole isNumber reads)
      rcases wholeOfBinary_of_rational? isWhole with reads | tooLong
      · exact Or.inl ⟨result, reads⟩
      · exact Or.inr ⟨number, rfl, tooLong⟩
  | list items =>
      obtain ⟨others, rfl | rfl, _⟩ := holds.list_of_list <;> cases reads
  | map entries =>
      obtain ⟨others, rfl, _⟩ := holds.map_of_map
      cases reads
  | _ =>
      have isDocument := holds.isDocument
      simp [Value.IsDocument, Value.document?] at isDocument

end FieldKind

namespace Entries

open Column

variable {α : Type} {entries contents : Entries} {name : String} {check : Value → Checked α}

theorem HeldBy.exists_field? (held : entries.HeldBy contents) (isPlain : Value.isPlainName name = true)
    {content : Value} (found : contents.field? name = some content) :
    ∃ value, entries.field? name = some value ∧ Holds value content := by
  have alike := held name isPlain
  rw [found] at alike
  cases isThere : entries.field? name with
  | none =>
      rw [isThere] at alike
      cases alike
  | some value =>
      rw [isThere] at alike
      cases alike with
      | some holds => exact ⟨value, rfl, holds⟩

theorem HeldBy.exists_content (held : entries.HeldBy contents)
    (isPlain : Value.isPlainName name = true) {value : Value}
    (isThere : entries.field? name = some value) :
    ∃ content, contents.field? name = some content ∧ Holds value content := by
  have alike := held name isPlain
  rw [isThere] at alike
  cases found : contents.field? name with
  | none =>
      rw [found] at alike
      cases alike
  | some content =>
      rw [found] at alike
      cases alike with
      | some holds => exact ⟨content, rfl, holds⟩

theorem HeldBy.isValid_withDefault (held : entries.HeldBy contents)
    (isPlain : Value.isPlainName name = true) {missing : α}
    (keeps : ∀ value content, Holds value content → (check value).IsValid → (check content).IsValid)
    (isValid : (entries.withDefault name missing check).IsValid) :
    (contents.withDefault name missing check).IsValid := by
  rw [isValid_withDefault_iff] at isValid ⊢
  intro content found
  obtain ⟨value, isThere, holds⟩ := held.exists_field? isPlain found
  exact keeps value content holds (isValid value isThere)

theorem HeldBy.isValid_optional (held : entries.HeldBy contents)
    (isPlain : Value.isPlainName name = true)
    (keeps : ∀ value content, Holds value content → (check value).IsValid → (check content).IsValid)
    (isValid : (entries.optional name check).IsValid) : (contents.optional name check).IsValid := by
  rw [isValid_optional_iff] at isValid ⊢
  intro content found
  obtain ⟨value, isThere, holds⟩ := held.exists_field? isPlain found
  rcases isValid value isThere with isNull | reads
  · exact Or.inl (holds.eq_null_iff.mpr isNull)
  · exact Or.inr (keeps value content holds reads)

end Entries

namespace Conditions

open FieldKind

inductive HasOversizedThreshold (contents : Entries) : GoalType → Prop where
  | minValue {whole : Int} (found : contents.field? "min_value" = some (.int whole))
      (tooLarge : Binary64.ofInt? whole = none) : HasOversizedThreshold contents .event
  | minSeconds {whole : Int} (found : contents.field? "min_seconds" = some (.int whole))
      (tooLarge : Binary64.ofInt? whole = none) : HasOversizedThreshold contents .duration
  | minPages {number : Binary64} (found : contents.field? "min_pages" = some (.float number))
      (tooLarge : wholeOfBinary number = .error .wholeTooLong) :
      HasOversizedThreshold contents .pagesPerSession

theorem isValid_eventOf_iff (entries : Entries) :
    (eventOf entries).IsValid ↔
      (entries.optional "event_name" text).IsValid ∧
        (entries.optional "event_category" text).IsValid ∧
        (entries.optional "min_value" number).IsValid ∧
        (entries.withDefault "property_matches" [] fields).IsValid := by
  simp only [eventOf, Checked.isValid_seq_iff, Checked.isValid_map_iff, and_assoc]

theorem isValid_pathRulesOf_iff (entries : Entries) :
    (pathRulesOf entries).IsValid ↔
      (entries.optional "path_exact" text).IsValid ∧
        (entries.optional "path_pattern" text).IsValid ∧
        (entries.optional "path_regex" text).IsValid ∧
        (entries.optional "path_contains" text).IsValid := by
  simp only [pathRulesOf, Checked.isValid_seq_iff, Checked.isValid_map_iff, and_assoc]

theorem isValid_ofEntries_of_heldBy {goalType : GoalType} {entries contents : Entries}
    (held : entries.HeldBy contents) (isValid : (ofEntries goalType entries).IsValid) :
    (ofEntries goalType contents).IsValid ∨ HasOversizedThreshold contents goalType := by
  have keepsText (value content : Value) (holds : Column.Holds value content) :=
    isValid_text_of_holds holds
  cases goalType with
  | event =>
      simp only [ofEntries, Checked.isValid_map_iff, isValid_eventOf_iff] at isValid ⊢
      obtain ⟨name, category, minValue, properties⟩ := isValid
      have storedName := held.isValid_optional (by decide) keepsText name
      have storedCategory := held.isValid_optional (by decide) keepsText category
      have storedProperties := held.isValid_withDefault (by decide)
        (fun _ _ => isValid_fields_of_holds) properties
      by_cases oversized : HasOversizedThreshold contents .event
      · exact Or.inr oversized
      · refine Or.inl ⟨storedName, storedCategory, ?_, storedProperties⟩
        rw [Entries.isValid_optional_iff] at minValue ⊢
        intro content found
        obtain ⟨value, isThere, holds⟩ := held.exists_field? (by decide) found
        rcases minValue value isThere with isNull | reads
        · exact Or.inl (holds.eq_null_iff.mpr isNull)
        · rcases isValid_number_of_holds holds reads with reads | ⟨whole, rfl, tooLarge⟩
          · exact Or.inr reads
          · exact absurd (.minValue found tooLarge) oversized
  | pageView =>
      simp only [ofEntries, Checked.isValid_map_iff, isValid_pathRulesOf_iff] at isValid ⊢
      obtain ⟨exact', pattern, regex, contains⟩ := isValid
      exact Or.inl ⟨held.isValid_optional (by decide) keepsText exact',
        held.isValid_optional (by decide) keepsText pattern,
        held.isValid_optional (by decide) keepsText regex,
        held.isValid_optional (by decide) keepsText contains⟩
  | duration =>
      simp only [ofEntries, Checked.isValid_map_iff, Entries.isValid_required_iff] at isValid ⊢
      obtain ⟨value, isThere, reads⟩ := isValid
      obtain ⟨content, found, holds⟩ := held.exists_content (by decide) isThere
      rcases isValid_number_of_holds holds reads with reads | ⟨whole, rfl, tooLarge⟩
      · exact Or.inl ⟨content, found, reads⟩
      · exact Or.inr (.minSeconds found tooLarge)
  | pagesPerSession =>
      simp only [ofEntries, Checked.isValid_map_iff, Entries.isValid_required_iff] at isValid ⊢
      obtain ⟨value, isThere, reads⟩ := isValid
      obtain ⟨content, found, holds⟩ := held.exists_content (by decide) isThere
      rcases isValid_whole_of_holds holds reads with reads | ⟨number, rfl, tooLarge⟩
      · exact Or.inl ⟨content, found, reads⟩
      · exact Or.inr (.minPages found tooLarge)

theorem not_isValid_of_oversized {goalType : GoalType} {contents : Entries}
    (oversized : HasOversizedThreshold contents goalType) :
    ¬(ofEntries goalType contents).IsValid := by
  intro isValid
  cases oversized with
  | minValue found tooLarge =>
      simp only [ofEntries, Checked.isValid_map_iff, isValid_eventOf_iff,
        Entries.isValid_optional_iff] at isValid
      rcases isValid.2.2.1 _ found with isNull | reads
      · contradiction
      · simp [isValid_number_iff, readNumber, tooLarge] at reads
  | minSeconds found tooLarge =>
      simp only [ofEntries, Checked.isValid_map_iff, Entries.isValid_required_iff] at isValid
      obtain ⟨value, isThere, reads⟩ := isValid
      obtain rfl := Option.some.inj (found.symm.trans isThere)
      simp [isValid_number_iff, readNumber, tooLarge] at reads
  | minPages found tooLarge =>
      simp only [ofEntries, Checked.isValid_map_iff, Entries.isValid_required_iff] at isValid
      obtain ⟨value, isThere, reads⟩ := isValid
      obtain rfl := Option.some.inj (found.symm.trans isThere)
      simp [isValid_whole_iff, readWhole, tooLarge] at reads

theorem read_toValue_eq_ok_iff (typeName : String) (fields : Fields) (conditions : Conditions) :
    read typeName fields.toValue = .ok conditions ↔
      ∃ goalType, GoalType.ofName? typeName = some goalType ∧
        ofEntries goalType fields.toEntries = .valid conditions := by
  unfold read
  cases GoalType.ofName? typeName with
  | none => simp
  | some goalType =>
      simp only [Fields.toValue_eq, Option.some.injEq, exists_eq_left']
      cases ofEntries goalType fields.toEntries <;> simp

end Conditions

end ConversionTracking
