import ConversionTracking.Proofs.Matching.Evaluate

/-!
Whom a conversion belongs to and the key that follows from it.
-/

namespace ConversionTracking

def Value.IsTextOrNull (value : Value) : Prop := value = .null ∨ ∃ text, value = .text text

/-- The ids of the session and the visitor that a trigger itself names are texts or nothing. -/
structure Trigger.HasTextIds (trigger : Trigger) : Prop where
  sessionId : ((trigger.field? .sessionId).getD .null).IsTextOrNull
  visitorId : ((trigger.field? .visitorId).getD .null).IsTextOrNull

/-- The key of a conversion by the session that it belongs to, else by the visitor. -/
def Conversion.ownKey (conversion : Conversion) : Option String :=
  match conversion.sessionId, conversion.visitorId with
  | some session, _ => some ("session:" ++ session)
  | none, some visitor => some ("visitor:" ++ visitor)
  | none, none => none

theorem givenIdentity_isTextOrNull (given : Option String) {own : Value}
    (ownText : own.IsTextOrNull) : (givenIdentity given own).IsTextOrNull := by
  unfold givenIdentity
  cases given with
  | none => exact ownText
  | some identity =>
      simp only
      split
      · exact ownText
      · exact Or.inr ⟨identity, rfl⟩

theorem Value.IsTextOrNull.column {identity : Value} (isText : identity.IsTextOrNull)
    {held : Option String} (column : Column.text identity = .ok held) :
    (identity = .null ∧ held = none) ∨ ∃ text, identity = .text text ∧ held = some text := by
  rcases isText with rfl | ⟨text, rfl⟩
  · cases column
    exact Or.inl ⟨rfl, rfl⟩
  · cases column
    exact Or.inr ⟨text, rfl, rfl⟩

theorem Occurrence.sessionId_isTextOrNull {occurrence : Occurrence}
    (textIds : occurrence.trigger.HasTextIds) : occurrence.sessionId.IsTextOrNull := by
  obtain ⟨given, _, isId⟩ := Except.map_eq_ok_iff.mp occurrence.ofSession
  exact isId ▸ givenIdentity_isTextOrNull given textIds.sessionId

theorem Occurrence.visitorId_isTextOrNull {occurrence : Occurrence}
    (textIds : occurrence.trigger.HasTextIds) : occurrence.visitorId.IsTextOrNull := by
  obtain ⟨given, _, isId⟩ := Except.map_eq_ok_iff.mp occurrence.ofVisitor
  exact isId ▸ givenIdentity_isTextOrNull given textIds.visitorId

theorem Occurrence.Fills.ownKey {occurrence : Occurrence} {scope : Scope} {goal : Goal}
    {row : Conversion} (fills : occurrence.Fills scope goal row)
    (textIds : occurrence.trigger.HasTextIds) {key : String} (keyed : row.dedupeKey = some key) :
    row.ownKey = some key := by
  have session := (Occurrence.sessionId_isTextOrNull textIds).column fills.sessionId
  have visitor := (Occurrence.visitorId_isTextOrNull textIds).column fills.visitorId
  have isKey := fills.dedupeKey
  rw [keyed, Occurrence.key, Except.mapError_eq_ok_iff] at isKey
  cases multiple : goal.allowMultiple with
  | true =>
      rw [multiple] at isKey
      cases isKey
  | false =>
      rw [multiple] at isKey
      rcases session with ⟨noSession, sessionColumn⟩ | ⟨sessionText, isSession, sessionColumn⟩
      · rcases visitor with ⟨noVisitor, visitorColumn⟩ | ⟨visitorText, isVisitor, visitorColumn⟩
        · rw [noSession, noVisitor] at isKey
          cases isKey
        · rw [noSession, isVisitor] at isKey
          rw [Conversion.ownKey, sessionColumn, visitorColumn]
          exact Except.ok.inj isKey
      · rw [isSession] at isKey
        rw [Conversion.ownKey, sessionColumn]
        exact Except.ok.inj isKey

end ConversionTracking
