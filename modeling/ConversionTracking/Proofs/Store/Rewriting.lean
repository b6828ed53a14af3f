import ConversionTracking.Proofs.Store.Database
import ConversionTracking.Proofs.Value.Decimals
import ConversionTracking.Proofs.Value.Meaning

/-!
Documents that are written again and again. What stands for one value is the same document or an equal
one, and values that are written over what they left before leave it as it is.
-/

namespace ConversionTracking

namespace Value

/-- Documents of which either stands for what the other stands for: the same one, or equal ones. -/
def Alike (content other : Value) : Prop := content = other ∨ content.equals other = true

theorem Alike.refl (content : Value) : content.Alike content := Or.inl rfl

theorem Alike.equals_iff {content other : Value} (isDocument : content.IsDocument)
    (otherDocument : other.IsDocument) (alike : content.Alike other) (value : Value) :
    content.equals value = true ↔ other.equals value = true := by
  rcases alike with rfl | same
  · rfl
  · exact equals_iff_of_equals isDocument otherDocument same value

theorem written_eq_of_equals {value content written : Value} (isDocument : content.IsDocument)
    (isWritten : value.document? = some written) (same : content.equals value = true) :
    written = value := by
  have isOwn := isDocument_of_equals value isDocument same (not_hasDecimal_of_document? isWritten)
  exact Option.some.inj (isWritten.symm.trans isOwn)

end Value

namespace Column

namespace Holds

variable {value content : Value}

theorem alike_written (holds : Holds value content) {written : Value}
    (isWritten : value.document? = some written) : content.Alike written := by
  cases holds with
  | written isContent => exact Or.inl (Option.some.inj (isContent.symm.trans isWritten))
  | equal isDocument same =>
      rw [Value.written_eq_of_equals isDocument isWritten same]
      exact Or.inr same

theorem alike (holds : Holds value content) {other : Value} (otherHolds : Holds value other) :
    content.Alike other := by
  cases otherHolds with
  | written isWritten => exact holds.alike_written isWritten
  | equal otherDocument otherSame =>
      cases holds with
      | written isWritten =>
          have isOwn := Value.written_eq_of_equals otherDocument isWritten otherSame
          have same : other.equals content = true := isOwn ▸ otherSame
          exact Or.inr (Value.equals_symm otherDocument
            (Value.isDocument_of_document? value content isWritten) same)
      | equal isDocument same =>
          exact Or.inr (Value.equals_of_common isDocument otherDocument same otherSame)

theorem rewritten_eq (holds : Holds value content) : rewritten content value = .ok content := by
  unfold rewritten
  split
  · rfl
  · rename_i differs
    cases holds with
    | written isWritten => exact (document_eq_ok_iff _ _).mpr isWritten
    | equal _ same => exact absurd same differs

end Holds

theorem exists_rewritten_iff (stored value : Value) :
    (∃ content, rewritten stored value = .ok content) ↔
      stored.equals value = true ∨ ∃ written, value.document? = some written := by
  unfold rewritten
  split
  · rename_i same
    exact iff_of_true ⟨stored, rfl⟩ (Or.inl same)
  · rename_i differs
    simp only [document_eq_ok_iff, differs, Bool.false_eq_true, false_or]

theorem rewritten_of_written {value written : Value} (isWritten : value.document? = some written)
    (stored : Value) : ∃ content, rewritten stored value = .ok content :=
  (exists_rewritten_iff stored value).mpr (Or.inr ⟨written, isWritten⟩)

def rewriteAll (stored : Value) (values : List Value) : Except Fault Value :=
  values.foldlM rewritten stored

@[simp] theorem rewriteAll_nil (stored : Value) : rewriteAll stored [] = .ok stored := rfl

theorem rewriteAll_cons (stored value : Value) (rest : List Value) :
    rewriteAll stored (value :: rest) =
      rewritten stored value >>= fun changed => rewriteAll changed rest :=
  List.foldlM_cons

theorem rewriteAll_append (stored : Value) (first later : List Value) :
    rewriteAll stored (first ++ later) =
      rewriteAll stored first >>= fun changed => rewriteAll changed later :=
  List.foldlM_append

variable {stored other content : Value} {values : List Value}

theorem isDocument_of_rewriteAll (isDocument : stored.IsDocument)
    (writes : rewriteAll stored values = .ok content) : content.IsDocument := by
  induction values generalizing stored with
  | nil => exact Except.ok.inj writes ▸ isDocument
  | cons value rest ih =>
      rw [rewriteAll_cons] at writes
      obtain ⟨changed, first, others⟩ := Except.bind_eq_ok_iff.mp writes
      exact ih (holds_of_rewritten isDocument first).isDocument others

theorem exists_rewriteAll (areWritten : ∀ value ∈ values, ∃ written, value.document? = some written)
    (stored : Value) : ∃ content, rewriteAll stored values = .ok content := by
  induction values generalizing stored with
  | nil => exact ⟨stored, rfl⟩
  | cons value rest ih =>
      obtain ⟨⟨_, isWritten⟩, restWritten⟩ := List.forall_mem_cons.mp areWritten
      obtain ⟨changed, first⟩ := rewritten_of_written isWritten stored
      obtain ⟨content, others⟩ := ih restWritten changed
      exact ⟨content, by rw [rewriteAll_cons, first]; exact others⟩

theorem rewriteAll_of_alike (isDocument : stored.IsDocument) (otherDocument : other.IsDocument)
    (alike : stored.Alike other) (writes : rewriteAll stored values = .ok content) :
    rewriteAll other values = .ok content ∨
      content = stored ∧ rewriteAll other values = .ok other := by
  induction values with
  | nil =>
      obtain rfl := Except.ok.inj writes
      exact Or.inr ⟨rfl, rfl⟩
  | cons value rest ih =>
      rw [rewriteAll_cons] at writes ⊢
      obtain ⟨changed, first, others⟩ := Except.bind_eq_ok_iff.mp writes
      have sameStanding := alike.equals_iff isDocument otherDocument value
      unfold rewritten at first ⊢
      by_cases same : stored.equals value = true
      · rw [if_pos same] at first
        rw [if_pos (sameStanding.mp same)]
        obtain rfl := Except.ok.inj first
        exact ih others
      · rw [if_neg same] at first
        rw [if_neg (mt sameStanding.mpr same), first]
        exact Or.inl others

theorem rewriteAll_over {value changed : Value} (holds : Holds value stored)
    (writes : rewriteAll stored values = .ok content) (otherDocument : other.IsDocument)
    (first : rewritten other value = .ok changed) :
    rewriteAll other (value :: values) = .ok content ∨
      content = stored ∧ stored.Alike changed ∧ rewriteAll other (value :: values) = .ok changed := by
  have changedHolds := holds_of_rewritten otherDocument first
  have alike := holds.alike changedHolds
  rw [rewriteAll_cons, first]
  rcases rewriteAll_of_alike holds.isDocument changedHolds.isDocument alike writes with
    same | ⟨kept, others⟩
  · exact Or.inl same
  · exact Or.inr ⟨kept, alike, others⟩

/-- Values are written over what they left without effect, if the first of them can be written. -/
theorem rewriteAll_again {value changed : Value} (holds : Holds value stored)
    (writes : rewriteAll stored values = .ok content)
    (first : rewritten content value = .ok changed) :
    rewriteAll content (value :: values) = .ok content := by
  have isDocument := isDocument_of_rewriteAll holds.isDocument writes
  rcases rewriteAll_over holds writes isDocument first with same | ⟨rfl, _, kept⟩
  · exact same
  · obtain rfl := Except.ok.inj (holds.rewritten_eq.symm.trans first)
    exact kept

theorem rewriteAll_from_written {value : Value} (isWritten : value.document? = some stored)
    (writes : rewriteAll stored values = .ok content) {others : List Value}
    (areWritten : ∀ other ∈ others, ∃ written, other.document? = some written) :
    ∃ last, rewriteAll content (others ++ value :: values) = .ok last ∧ content.Alike last ∧
      (others = [] → last = content) := by
  have holds : Holds value stored := .written isWritten
  have isDocument := isDocument_of_rewriteAll holds.isDocument writes
  cases others with
  | nil =>
      obtain ⟨changed, first⟩ := rewritten_of_written isWritten content
      exact ⟨content, rewriteAll_again holds writes first, .refl content, fun _ => rfl⟩
  | cons other rest =>
      obtain ⟨between, writesOthers⟩ := exists_rewriteAll areWritten content
      obtain ⟨changed, first⟩ := rewritten_of_written isWritten between
      have overwrites :=
        rewriteAll_over holds writes (isDocument_of_rewriteAll isDocument writesOthers) first
      rw [rewriteAll_append, writesOthers]
      rcases overwrites with same | ⟨rfl, alike, kept⟩
      · exact ⟨content, same, .refl content, fun _ => rfl⟩
      · exact ⟨changed, kept, alike, fun isEmpty => absurd isEmpty (List.cons_ne_nil other rest)⟩

end Column

end ConversionTracking
