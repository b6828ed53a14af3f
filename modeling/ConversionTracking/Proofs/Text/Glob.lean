import ConversionTracking.Proofs.Pattern.Matching
import ConversionTracking.Proofs.Pattern.Reading
import ConversionTracking.Proofs.Text.Like
import ConversionTracking.Text.Glob

/-!
What a pattern with stars accepts, and that it is what the regular expression accepts in which each
star is written as a run of any characters and everything else is quoted.
-/

namespace ConversionTracking

namespace Glob

/-- The pattern with runs in the places of its stars, one after another. -/
def filled : List Char → List (List Char) → List Char
  | [], _ => []
  | '*' :: pattern, run :: runs => run ++ filled pattern runs
  | char :: pattern, runs => char :: filled pattern runs

/-- Patterns one character at a time, a star or another. -/
@[elab_as_elim]
theorem patternInduction {motive : List Char → Prop} (nil : motive [])
    (star : ∀ pattern, motive pattern → motive ('*' :: pattern))
    (char : ∀ char pattern, char ≠ '*' → motive pattern → motive (char :: pattern))
    (pattern : List Char) : motive pattern := by
  induction pattern with
  | nil => exact nil
  | cons first pattern ih =>
      by_cases isStar : first = '*'
      · rw [isStar]
        exact star pattern ih
      · exact char first pattern isStar ih

theorem filled_of_ne {char : Char} (notStar : char ≠ '*') (pattern : List Char)
    (runs : List (List Char)) : filled (char :: pattern) runs = char :: filled pattern runs := by
  rw [filled]
  exact fun _ _ _ isStar => notStar isStar

theorem accepts_star_iff (pattern text : List Char) :
    accepts ('*' :: pattern) text = true ↔
      ∃ run rest, run ++ rest = text ∧ accepts pattern rest = true := by
  simp only [accepts, List.any_eq_true, mem_suffixes_iff]
  constructor
  · rintro ⟨rest, ⟨run, isText⟩, accepted⟩
    exact ⟨run, rest, isText, accepted⟩
  · rintro ⟨run, rest, isText, accepted⟩
    exact ⟨rest, ⟨run, isText⟩, accepted⟩

theorem accepts_char_iff {char : Char} (notStar : char ≠ '*') (pattern text : List Char) :
    accepts (char :: pattern) text = true ↔
      ∃ rest, text = char :: rest ∧ accepts pattern rest = true := by
  cases text with
  | nil =>
      rw [accepts]
      · constructor
        · nofun
        · nofun
      · exact notStar
  | cons first rest =>
      rw [accepts, Bool.and_eq_true, beq_iff_eq]
      · constructor
        · rintro ⟨rfl, accepted⟩
          exact ⟨rest, rfl, accepted⟩
        · rintro ⟨_, same, accepted⟩
          cases same
          exact ⟨rfl, accepted⟩
      · exact notStar

/-- A text is accepted when it is the pattern with some run of characters for each star. -/
theorem accepts_iff (pattern text : List Char) :
    accepts pattern text = true ↔
      ∃ runs : List (List Char), runs.length = pattern.count '*' ∧ filled pattern runs = text := by
  induction pattern using patternInduction generalizing text with
  | nil =>
      rw [accepts, List.isEmpty_iff]
      constructor
      · rintro rfl
        exact ⟨[], rfl, rfl⟩
      · rintro ⟨_, _, isText⟩
        exact isText.symm
  | star pattern ih =>
      rw [accepts_star_iff, List.count_cons_self]
      constructor
      · rintro ⟨run, rest, rfl, accepted⟩
        obtain ⟨runs, count, rfl⟩ := (ih rest).mp accepted
        exact ⟨run :: runs, congrArg (· + 1) count, rfl⟩
      · rintro ⟨runs, count, rfl⟩
        cases runs with
        | nil => cases count
        | cons run runs =>
            exact ⟨run, _, rfl, (ih _).mpr ⟨runs, Nat.succ.inj count, rfl⟩⟩
  | char char pattern notStar ih =>
      rw [accepts_char_iff notStar, List.count_cons_of_ne notStar]
      simp only [filled_of_ne notStar]
      constructor
      · rintro ⟨rest, rfl, accepted⟩
        obtain ⟨runs, count, rfl⟩ := (ih rest).mp accepted
        exact ⟨runs, count, rfl⟩
      · rintro ⟨runs, count, rfl⟩
        exact ⟨_, rfl, (ih _).mpr ⟨runs, count, rfl⟩⟩

theorem accepts_self (pattern : List Char) : accepts pattern pattern = true := by
  induction pattern using patternInduction with
  | nil => rfl
  | star pattern ih => exact (accepts_star_iff _ _).mpr ⟨['*'], pattern, rfl, ih⟩
  | char char pattern notStar ih => exact (accepts_char_iff notStar _ _).mpr ⟨pattern, rfl, ih⟩

/-- The regular expression of a pattern: what stands between the stars, quoted, with a run of any
characters for each star. -/
def expression (pattern : List Char) : List Char :=
  ['.', '*'].intercalate ((splitAtChar '*' pattern).map (·.flatMap Pattern.quoted))

theorem exists_splitAtChar (separator : Char) (chars : List Char) :
    ∃ piece pieces, splitAtChar separator chars = piece :: pieces := by
  unfold splitAtChar
  split
  · exact ⟨_, _, rfl⟩
  · split
    · exact ⟨_, _, rfl⟩
    · split
      · exact ⟨_, _, rfl⟩
      · exact ⟨_, _, rfl⟩

theorem expression_star (pattern : List Char) :
    expression ('*' :: pattern) = '.' :: '*' :: expression pattern := by
  obtain ⟨piece, pieces, isSplit⟩ := exists_splitAtChar '*' pattern
  rw [expression, expression, splitAtChar, if_pos rfl, isSplit]
  rfl

theorem expression_char {char : Char} (notStar : char ≠ '*') (pattern : List Char) :
    expression (char :: pattern) = Pattern.quoted char ++ expression pattern := by
  obtain ⟨piece, pieces, isSplit⟩ := exists_splitAtChar '*' pattern
  rw [expression, expression, splitAtChar, if_neg notStar, isSplit]
  cases pieces with
  | nil => simp [List.intercalate]
  | cons next others => simp [List.intercalate]

theorem length_le_length_expression (pattern : List Char) :
    pattern.length ≤ (expression pattern).length := by
  induction pattern using patternInduction with
  | nil => exact Nat.zero_le _
  | star pattern ih =>
      rw [expression_star, List.length_cons, List.length_cons, List.length_cons]
      omega
  | char char pattern notStar ih =>
      have isQuoted : 1 ≤ (Pattern.quoted char).length := by
        rw [Pattern.quoted]
        split
        · exact Nat.le_succ 1
        · exact Nat.le_refl 1
      rw [expression_char notStar, List.length_append, List.length_cons]
      omega

def parts (pattern : List Char) : List Pattern.Node :=
  pattern.map fun char =>
    if char = '*' then .repetition .greedy 0 none [.any] else .literal false char.toNat

def startOf : List Char → Pattern.Reader
  | [] => ⟨none, []⟩
  | char :: pattern =>
      if char = '*' then ⟨some (.char '.'), '*' :: expression pattern⟩
      else if char ∈ Pattern.specials then ⟨some (.escape char), expression pattern⟩
      else ⟨some (.char char), expression pattern⟩

theorem ofChars_expression (pattern : List Char) :
    Pattern.Reader.ofChars (expression pattern) = .ok (startOf pattern) := by
  cases pattern with
  | nil => rfl
  | cons char pattern =>
      rw [startOf]
      split
      next isStar =>
        rw [isStar, expression_star]
        exact Pattern.Reader.ofChars_of_ne (by decide) _
      next notStar =>
        rw [expression_char notStar, Pattern.quoted]
        split
        next special => exact Pattern.Reader.ofChars_escape char _
        next ordinary =>
          refine Pattern.Reader.ofChars_of_ne ?_ _
          rintro rfl
          exact ordinary (by decide)

theorem startOf_next_ne {char : Char} (special : char ∈ Pattern.specials) (isOther : char ≠ '.')
    (pattern : List Char) : (startOf pattern).next ≠ some (.char char) := by
  cases pattern with
  | nil => nofun
  | cons first pattern =>
      rw [startOf]
      split
      next => simpa using isOther.symm
      next =>
        split
        next => simp
        next ordinary =>
          simp only [ne_eq, Option.some.injEq, Pattern.Token.char.injEq]
          rintro rfl
          exact ordinary special

theorem parts_star (pattern : List Char) :
    parts ('*' :: pattern) = .repetition .greedy 0 none [.any] :: parts pattern := rfl

theorem parts_char {char : Char} (notStar : char ≠ '*') (pattern : List Char) :
    parts (char :: pattern) = .literal false char.toNat :: parts pattern := by
  rw [parts, List.map_cons, if_neg notStar, ← parts]

theorem dissolved_parts (pattern : List Char) :
    Pattern.Reading.dissolved (parts pattern) = parts pattern := by
  rw [Pattern.Reading.dissolved]
  induction pattern using patternInduction with
  | nil => rfl
  | star pattern ih => rw [parts_star, List.flatMap_cons, ih, List.singleton_append]
  | char char pattern notStar ih =>
      rw [parts_char notStar, List.flatMap_cons, ih, List.singleton_append]

theorem areSound_parts (pattern : List Char) :
    Pattern.Node.areSound false (parts pattern) = true := by
  induction pattern using patternInduction with
  | nil => rfl
  | star pattern ih =>
      rw [parts_star, Pattern.Node.areSound, ih]
      rfl
  | char char pattern notStar ih =>
      rw [parts_char notStar, Pattern.Node.areSound, ih]
      rfl

theorem sequence_expression (pattern : List Char) {fuel : Nat} {progress : Pattern.Progress}
    (enough : 2 * pattern.length < fuel) (starts : progress.reader = startOf pattern)
    (mayStart : Bool) (parsed : List Pattern.Node) :
    Pattern.Reading.sequence fuel false mayStart parsed progress =
      .ok (Pattern.Reading.dissolved (parsed.reverse ++ parts pattern),
        progress.movedTo ⟨none, []⟩) := by
  induction pattern using patternInduction generalizing fuel progress parsed with
  | nil =>
      obtain ⟨fuel, rfl⟩ : ∃ less, fuel = less + 1 := ⟨fuel - 1, by omega⟩
      rw [Pattern.Reading.sequence_end fuel mayStart parsed (by rw [starts, startOf]), parts,
        List.map_nil, List.append_nil, ← startOf, ← starts, progress.movedTo_self]
  | star pattern ih =>
      rw [List.length_cons] at enough
      obtain ⟨fuel, rfl⟩ : ∃ less, fuel = less + 2 := ⟨fuel - 2, by omega⟩
      rw [startOf, if_pos rfl] at starts
      have isRead : Pattern.Reader.ofChars progress.reader.rest =
          .ok ⟨some (.char '*'), expression pattern⟩ := by
        rw [starts]
        exact Pattern.Reader.ofChars_of_ne (by decide) _
      rw [Pattern.Reading.sequence_any _ mayStart parsed (by rw [starts]) isRead,
        Pattern.Reading.sequence_star _ mayStart parsed rfl (ofChars_expression pattern)
          (startOf_next_ne (by decide) (by decide) pattern)
          (startOf_next_ne (by decide) (by decide) pattern),
        ih (by omega) rfl, progress.movedTo_movedTo, progress.movedTo_movedTo, parts_star,
        List.reverse_cons, List.append_assoc, List.singleton_append]
  | char char pattern notStar ih =>
      rw [List.length_cons] at enough
      obtain ⟨fuel, rfl⟩ : ∃ less, fuel = less + 1 := ⟨fuel - 1, by omega⟩
      have goesOn : Pattern.Reading.sequence fuel false mayStart
          (.literal false char.toNat :: parsed) (progress.movedTo (startOf pattern)) =
            .ok (Pattern.Reading.dissolved (parsed.reverse ++ parts (char :: pattern)),
              progress.movedTo ⟨none, []⟩) := by
        rw [ih (by omega) rfl, List.reverse_cons, List.append_assoc, List.singleton_append,
          ← parts_char notStar, progress.movedTo_movedTo]
      rw [← goesOn]
      rw [startOf, if_neg notStar] at starts
      split at starts
      next special =>
        exact Pattern.Reading.sequence_special _ mayStart parsed special (by rw [starts])
          (by rw [starts]; exact ofChars_expression pattern)
      next ordinary =>
        exact Pattern.Reading.sequence_ordinary _ mayStart parsed ordinary (by rw [starts])
          (by rw [starts]; exact ofChars_expression pattern)

theorem parse_expression (pattern : List Char) :
    ∃ read, Pattern.parse { dotAll := true } (String.ofList (expression pattern)) = .ok read ∧
      read.modes = { dotAll := true } ∧ read.body = parts pattern := by
  have enough : 2 * pattern.length < 4 * (expression pattern).length + 6 := by
    have := length_le_length_expression pattern
    omega
  have starts := ofChars_expression pattern
  rw [← String.toList_ofList (l := expression pattern)] at starts
  refine Pattern.parse_of_sequence rfl rfl starts ?_ (areSound_parts pattern)
  rw [String.toList_ofList, sequence_expression pattern enough rfl, List.reverse_nil,
    List.nil_append, dissolved_parts]
  rfl

theorem accepts_star_drop_iff (pattern text : List Char) {start : Nat}
    (inside : start ≤ text.length) :
    accepts ('*' :: pattern) (text.drop start) = true ↔
      ∃ next, start ≤ next ∧ next ≤ text.length ∧ accepts pattern (text.drop next) = true := by
  rw [accepts_star_iff]
  constructor
  · rintro ⟨run, rest, isText, accepted⟩
    have lengths := congrArg List.length isText
    rw [List.length_append, List.length_drop] at lengths
    refine ⟨start + run.length, Nat.le_add_right _ _, by omega, ?_⟩
    rwa [← List.drop_drop, ← isText, List.drop_left]
  · rintro ⟨next, isAfter, isInside, accepted⟩
    obtain ⟨run, isText⟩ := List.drop_suffix (next - start) (text.drop start)
    rw [List.drop_drop, Nat.add_sub_cancel' isAfter] at isText
    exact ⟨run, _, isText, accepted⟩

theorem matchParts_parts_isSome_iff (subject : Array Char) {modes : Pattern.Modes}
    (plain : modes.ignoreCase = false) (dotAll : modes.dotAll = true) (marks : Pattern.Marks)
    (pattern : List Char) {position : Nat} (inside : position ≤ subject.size) :
    (Pattern.matchParts subject modes (parts pattern) position marks fun position marks =>
        if position = subject.size then some (position, marks) else none).isSome ↔
      accepts pattern (subject.toList.drop position) = true := by
  induction pattern using patternInduction generalizing position with
  | nil =>
      rw [parts, List.map_nil, Pattern.matchParts, accepts, List.isEmpty_iff, List.drop_eq_nil_iff,
        Array.length_toList]
      by_cases isEnd : position = subject.size
      · simp [isEnd]
      · simp only [if_neg isEnd, Option.isSome_none, Bool.false_eq_true, false_iff]
        omega
  | star pattern ih =>
      rw [parts_star, Pattern.matchParts_anyRun_isSome_iff _ _ _ dotAll _ inside,
        accepts_star_drop_iff _ _ inside, Array.length_toList]
      constructor
      · rintro ⟨next, isAfter, isInside, matched⟩
        exact ⟨next, isAfter, isInside, (ih isInside).mp matched⟩
      · rintro ⟨next, isAfter, isInside, accepted⟩
        exact ⟨next, isAfter, isInside, (ih isInside).mpr accepted⟩
  | char char pattern notStar ih =>
      rw [parts_char notStar, Pattern.matchParts_literal_isSome_iff _ _ _ plain,
        accepts_char_iff notStar]
      by_cases isEnd : position = subject.size
      · rw [isEnd, List.drop_eq_nil_of_le (by simp), Array.getElem?_eq_none (Nat.le_refl _)]
        simp
      · have hasChar : position < subject.size := by omega
        have isDropped : subject.toList.drop position =
            subject[position] :: subject.toList.drop (position + 1) :=
          List.drop_eq_getElem_cons hasChar
        rw [isDropped, Array.getElem?_eq_getElem hasChar, ih hasChar, Option.some.injEq]
        constructor
        · rintro ⟨same, accepted⟩
          exact ⟨_, by rw [same], accepted⟩
        · rintro ⟨rest, same, accepted⟩
          obtain ⟨isChar, isRest⟩ := List.cons.inj same
          rw [isRest]
          exact ⟨isChar, accepted⟩

theorem matchesWhole_eq_accepts {read : Pattern} {pattern : List Char}
    (modes : read.modes = { dotAll := true }) (body : read.body = parts pattern) (text : String) :
    read.matchesWhole text = accepts pattern text.toList := by
  rw [Bool.eq_iff_iff, Pattern.matchesWhole, modes, body]
  exact matchParts_parts_isSome_iff _ rfl rfl _ pattern (Nat.zero_le _)

end Glob

/-- A pattern matches a text just when the text is the pattern with some run of characters in place of
each star, and no pattern matches a missing text. The regular expression of a pattern can always be
read, and tells the same of the whole text, also where the text is the pattern itself. -/
theorem globMatches_fills_stars (pattern : String) :
    globMatches pattern none = false ∧
    ∀ text : String,
      (globMatches pattern (some text) = true ↔
        ∃ runs : List (List Char), runs.length = pattern.toList.count '*' ∧
          Glob.filled pattern.toList runs = text.toList) ∧
      ∃ read, Pattern.parse { dotAll := true } (String.ofList (Glob.expression pattern.toList)) =
          .ok read ∧
        globMatches pattern (some text) = (pattern == text || read.matchesWhole text) := by
  refine ⟨rfl, fun text => ⟨Glob.accepts_iff _ _, ?_⟩⟩
  obtain ⟨read, isRead, modes, body⟩ := Glob.parse_expression pattern.toList
  refine ⟨read, isRead, ?_⟩
  rw [Glob.matchesWhole_eq_accepts modes body, globMatches]
  by_cases isSame : pattern = text
  · rw [isSame, Glob.accepts_self, Bool.or_true]
  · rw [beq_eq_false_iff_ne.mpr isSame, Bool.false_or]

example : globMatches "/docs/*.html" (some "/docs/a\n/b.html") = true ∧
    globMatches "/docs/*.html" (some "/docs/ahtml") = false := by decide +kernel

end ConversionTracking
