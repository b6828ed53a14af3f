import ConversionTracking.Proofs.Value.Decimals
import ConversionTracking.Proofs.Value.Hazards

/-!
Values that documents can hold. They can be written out as well, and a map or a list is one of them
when all that it holds is.
-/

namespace ConversionTracking

theorem isWritableWhole_of_checkWord {value : Int} (fits : checkWord value = .ok ()) :
    isWritableWhole value = true := by
  have inWord : -0x8000000000000000 ≤ value ∧ value < 0x8000000000000000 := by
    by_contra isLarge
    rw [checkWord, if_neg isLarge] at fits
    contradiction
  have isSmall : value.natAbs < 10 ^ 20 := by omega
  have atMost : 20 ≤ wholeDigitLimit := by decide
  rw [isWritableWhole, decide_eq_true_eq]
  generalize wholeDigitLimit = digits at atMost ⊢
  exact isSmall.trans_le (Nat.pow_le_pow_right (by decide) atMost)

theorem isWritableWhole_eq_false {value : Int}
    (isLong : Nat.pow 10 wholeDigitLimit ≤ value.natAbs) : isWritableWhole value = false := by
  rw [isWritableWhole, decide_eq_false_iff_not, Nat.not_lt]
  exact isLong

namespace Value

def HasDocument (value : Value) : Prop := ∃ written, value.document? = some written

theorem IsDocument.hasDocument {value : Value} (isDocument : value.IsDocument) :
    value.HasDocument := ⟨value, isDocument⟩

theorem not_holdsLongWhole_of_document? {value written : Value}
    (isWritten : value.document? = some written) : ¬value.HoldsLongWhole := by
  intro holds
  induction holds generalizing written with
  | int isLong => simp [document?, isWritableWhole_eq_false isLong] at isWritten
  | inList member _ ih | inTuple member _ ih =>
      obtain ⟨contents, areWritten, _⟩ := Option.map_eq_some_iff.mp isWritten
      rw [documents?_eq_some_iff] at areWritten
      obtain ⟨content, _, isContent⟩ := exists_of_forall₂ areWritten.flip _ member
      exact ih isContent
  | inSet _ _ _ => simp [document?] at isWritten
  | @inKey entries entry member holds _ =>
      obtain ⟨fields, areWritten, _⟩ := (document?_map_eq_some_iff _ _).mp isWritten
      obtain ⟨field, _, isName, _⟩ := exists_of_forall₂ areWritten.flip _ member
      generalize entry.1 = key at holds isName
      cases holds with
      | int isLong => simp [documentKey?, isWritableWhole_eq_false isLong] at isName
      | _ => simp [documentKey?] at isName
  | inValue member _ ih =>
      obtain ⟨fields, areWritten, _⟩ := (document?_map_eq_some_iff _ _).mp isWritten
      obtain ⟨field, _, _, isContent⟩ := exists_of_forall₂ areWritten.flip _ member
      exact ih isContent
  | inReference _ _ => simp [document?] at isWritten

theorem HasDocument.isWritable {value : Value} (hasDocument : value.HasDocument) :
    value.isWritable = true := by
  obtain ⟨written, isWritten⟩ := hasDocument
  rw [← Bool.not_eq_false, isWritable_eq_false_iff]
  exact not_holdsLongWhole_of_document? isWritten

theorem HasDocument.not_hasDecimal {value : Value} (hasDocument : value.HasDocument) :
    ¬value.HasDecimal := by
  obtain ⟨written, isWritten⟩ := hasDocument
  exact not_hasDecimal_of_document? isWritten

theorem hasDocument_map_iff (entries : Entries) :
    (Value.map entries).HasDocument ↔
      ∀ entry ∈ entries, (∃ name, documentKey? entry.1 = some name) ∧ entry.2.HasDocument := by
  constructor
  · rintro ⟨written, isWritten⟩ entry member
    obtain ⟨fields, areWritten, _⟩ := (document?_map_eq_some_iff _ _).mp isWritten
    obtain ⟨field, _, isName, isContent⟩ := exists_of_forall₂ areWritten.flip _ member
    exact ⟨⟨field.1, isName⟩, field.2, isContent⟩
  · intro areWritten
    have each : ∀ entry ∈ entries, ∃ field, WrittenField entry field := by
      intro entry member
      obtain ⟨⟨name, isName⟩, content, isContent⟩ := areWritten entry member
      exact ⟨(name, content), isName, isContent⟩
    obtain ⟨fields, areFields⟩ := exists_forall₂ each
    exact ⟨_, (document?_map_eq_some_iff _ _).mpr ⟨fields, areFields, rfl⟩⟩

theorem hasDocument_list_iff (items : List Value) :
    (Value.list items).HasDocument ↔ ∀ item ∈ items, item.HasDocument := by
  constructor
  · rintro ⟨written, isWritten⟩ item member
    obtain ⟨contents, areWritten, _⟩ := (document?_list_eq_some_iff _ _).mp isWritten
    obtain ⟨content, _, isContent⟩ := exists_of_forall₂ areWritten.flip _ member
    exact ⟨content, isContent⟩
  · intro areWritten
    obtain ⟨contents, areContents⟩ := exists_forall₂ areWritten
    exact ⟨_, (document?_list_eq_some_iff _ _).mpr ⟨contents, areContents, rfl⟩⟩

theorem not_hasDocument_set (items : List Value) : ¬(Value.set items).HasDocument := by
  rintro ⟨written, isWritten⟩
  simp [document?] at isWritten

end Value

end ConversionTracking
