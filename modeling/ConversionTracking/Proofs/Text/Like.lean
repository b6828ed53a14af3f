import ConversionTracking.Text.Like

/-!
What a filter of the database for texts that contain a needle accepts. No character of the needle acts
as a wildcard or as an escape, letters of ASCII match in either case, and what is compared ends at the
first NUL of either text.
-/

namespace ConversionTracking

theorem mem_suffixes_iff {α : Type} (suffix list : List α) :
    suffix ∈ suffixes list ↔ suffix <:+ list := by
  induction list with
  | nil => simp [suffixes]
  | cons item rest ih => rw [suffixes, List.mem_cons, ih, List.suffix_cons_iff]

theorem occursIn_iff (needle text : List Char) :
    occursIn needle text = true ↔ needle <:+: text := by
  rw [occursIn, List.any_eq_true, List.infix_iff_prefix_suffix]
  simp only [mem_suffixes_iff, List.isPrefixOf_iff_prefix, and_comm]

namespace Like

theorem parse?_ordinary {char : Char} (ordinary : char ≠ '\\') (rest : List Char) :
    parse? (char :: rest) = (parse? rest).map
      ((if char = '%' then .anyRun else if char = '_' then .anyOne else .char char) :: ·) := by
  rw [parse?]
  · exact fun same _ => ordinary same
  · exact fun _ _ same _ => ordinary same

theorem parse?_escape (text rest : List Char) :
    parse? (escape text ++ rest) = (parse? rest).map (text.map Part.char ++ ·) := by
  induction text with
  | nil => simp [escape]
  | cons char text ih =>
      have continues : parse? (text.flatMap (fun char =>
          if char = '\\' ∨ char = '%' ∨ char = '_' then ['\\', char] else [char]) ++ rest) =
            (parse? rest).map (text.map Part.char ++ ·) := ih
      rw [escape, List.flatMap_cons]
      by_cases special : char = '\\' ∨ char = '%' ∨ char = '_'
      · rw [if_pos special, List.append_assoc, List.cons_append, List.singleton_append, parse?,
          continues, Option.map_map]
        rfl
      · rw [if_neg special, List.singleton_append, List.cons_append]
        simp only [not_or] at special
        obtain ⟨notEscape, notRun, notOne⟩ := special
        rw [parse?_ordinary notEscape, if_neg notRun, if_neg notOne, continues, Option.map_map]
        rfl

theorem readText_cons (char : Char) (rest : List Char) :
    readText (char :: rest) =
      if char = '\x00' then [] else readChar char :: readText rest := by
  by_cases isEnd : char = '\x00'
  · simp [readText, isEnd]
  · simp [readText, isEnd]

theorem readChar_of_ascii {char : Char} (ascii : char.toNat < 128) : readChar char = char := by
  rw [readChar, if_neg]
  omega

theorem readChar_eq_iff {char special : Char} (ascii : special.toNat < 128) :
    readChar char = special ↔ char = special := by
  constructor
  · intro same
    by_cases isReplaced : 0xFFFE ≤ char.toNat ∧ char.toNat ≤ 0xFFFF
    · rw [readChar, if_pos isReplaced] at same
      rw [← same] at ascii
      exact absurd ascii (by decide)
    · rwa [readChar, if_neg isReplaced] at same
  · rintro rfl
    exact readChar_of_ascii ascii

theorem readText_escape (needle rest : List Char) :
    readText (escape needle ++ rest) =
      escape (readText needle) ++ if '\x00' ∈ needle then [] else readText rest := by
  induction needle with
  | nil => simp [escape, readText]
  | cons char needle ih =>
      have escape_cons : ∀ first others, escape (first :: others) =
          (if first = '\\' ∨ first = '%' ∨ first = '_' then ['\\', first] else [first]) ++
            escape others := fun _ _ => rfl
      have special_iff : (readChar char = '\\' ∨ readChar char = '%' ∨ readChar char = '_') ↔
          (char = '\\' ∨ char = '%' ∨ char = '_') := by
        rw [readChar_eq_iff (by decide), readChar_eq_iff (by decide), readChar_eq_iff (by decide)]
      by_cases isEnd : char = '\x00'
      · subst isEnd
        rw [escape_cons, if_neg (by decide), List.singleton_append, List.cons_append,
          readText_cons, if_pos rfl, readText_cons, if_pos rfl]
        simp [escape]
      · rw [readText_cons, if_neg isEnd, escape_cons, escape_cons]
        simp only [special_iff, List.mem_cons, Ne.symm isEnd, false_or]
        by_cases special : char = '\\' ∨ char = '%' ∨ char = '_'
        · simp only [if_pos special, List.cons_append, List.nil_append]
          rw [readText_cons, if_neg (by decide), readText_cons, if_neg isEnd, ih,
            readChar_of_ascii (by decide)]
        · simp only [if_neg special, List.cons_append, List.nil_append]
          rw [readText_cons, if_neg isEnd, ih]

theorem readText_containing (needle : String) :
    readText (containing needle) =
      '%' :: escape (readText needle.toList) ++ if '\x00' ∈ needle.toList then [] else ['%'] := by
  have last : readText ['%'] = ['%'] := by decide
  rw [containing, List.cons_append, readText_cons, if_neg (by decide), readText_escape, last,
    readChar_of_ascii (by decide), List.cons_append]

theorem parse?_readText_containing (needle : String) :
    parse? (readText (containing needle)) = some (.anyRun ::
      ((readText needle.toList).map .char ++
        if '\x00' ∈ needle.toList then [] else [.anyRun])) := by
  have last : parse? (if '\x00' ∈ needle.toList then [] else ['%']) =
      some (if '\x00' ∈ needle.toList then [] else [.anyRun]) := by
    split <;> rfl
  rw [readText_containing, List.cons_append, parse?_ordinary (by decide), if_pos rfl,
    parse?_escape, last]
  rfl

/-- The characters of a text as they are compared, with the letters of ASCII in lower case. -/
def folded (text : List Char) : List Nat := text.map fun char => Unicode.asciiLowerCode char.toNat

theorem folded_append (first second : List Char) :
    folded (first ++ second) = folded first ++ folded second := List.map_append

theorem accepts_anyRun_iff (parts : List Part) (text : List Char) :
    accepts (.anyRun :: parts) text = true ↔
      ∃ suffix, suffix <:+ text ∧ accepts parts suffix = true := by
  rw [accepts, List.any_eq_true]
  simp only [mem_suffixes_iff]

theorem accepts_chars_iff (needle : List Char) (parts : List Part) (text : List Char) :
    accepts (needle.map .char ++ parts) text = true ↔
      ∃ head rest, head ++ rest = text ∧ folded head = folded needle ∧
        accepts parts rest = true := by
  induction needle generalizing text with
  | nil =>
      constructor
      · exact fun accepted => ⟨[], text, rfl, rfl, accepted⟩
      · rintro ⟨head, rest, rfl, isEmpty, accepted⟩
        obtain rfl : head = [] := List.map_eq_nil_iff.mp isEmpty
        exact accepted
  | cons char needle ih =>
      cases text with
      | nil =>
          simp only [List.map_cons, List.cons_append, accepts, Bool.false_eq_true, false_iff,
            not_exists]
          rintro head rest ⟨isEmpty, same, _⟩
          obtain rfl : head = [] := (List.append_eq_nil_iff.mp isEmpty).1
          simp [folded] at same
      | cons first text =>
          simp only [List.map_cons, List.cons_append, accepts, Bool.and_eq_true, sameLetter,
            beq_iff_eq, ih]
          constructor
          · rintro ⟨sameFirst, head, rest, rfl, same, accepted⟩
            refine ⟨first :: head, rest, rfl, ?_, accepted⟩
            simp only [folded, List.map_cons, List.cons.injEq]
            exact ⟨sameFirst.symm, same⟩
          · rintro ⟨head, rest, isText, same, accepted⟩
            cases head with
            | nil => simp [folded] at same
            | cons other head =>
                simp only [List.cons_append, List.cons.injEq] at isText
                obtain ⟨rfl, rfl⟩ := isText
                simp only [folded, List.map_cons, List.cons.injEq] at same
                exact ⟨same.1.symm, head, rest, rfl, same.2, accepted⟩

theorem accepts_ending_iff (needle text : List Char) :
    accepts (.anyRun :: (needle.map .char ++ [])) text = true ↔ folded needle <:+ folded text := by
  rw [accepts_anyRun_iff]
  simp only [accepts_chars_iff]
  constructor
  · rintro ⟨suffix, ⟨before, rfl⟩, head, rest, rfl, same, accepted⟩
    obtain rfl : rest = [] := by simpa [accepts] using accepted
    exact ⟨folded before, by rw [List.append_nil, folded_append, same]⟩
  · rintro ⟨before, isText⟩
    obtain ⟨first, second, rfl, _, isSecond⟩ := List.map_eq_append_iff.mp isText.symm
    exact ⟨second, ⟨first, rfl⟩, second, [], List.append_nil _, isSecond, rfl⟩

theorem accepts_containing_iff (needle text : List Char) :
    accepts (.anyRun :: (needle.map .char ++ [.anyRun])) text = true ↔
      folded needle <:+: folded text := by
  rw [accepts_anyRun_iff]
  simp only [accepts_chars_iff]
  constructor
  · rintro ⟨suffix, ⟨before, rfl⟩, head, rest, rfl, same, _⟩
    refine ⟨folded before, folded rest, ?_⟩
    rw [folded_append, folded_append, same, List.append_assoc]
  · rintro ⟨before, after, isText⟩
    obtain ⟨first, third, rfl, isFirst, _⟩ := List.map_eq_append_iff.mp isText.symm
    obtain ⟨first, second, rfl, _, isSecond⟩ := List.map_eq_append_iff.mp isFirst
    refine ⟨second ++ third, ⟨first, by simp⟩, second, third, rfl, isSecond, ?_⟩
    exact (accepts_anyRun_iff [] third).mpr ⟨[], List.nil_suffix, rfl⟩

/-- The needle occurs in the text, letters of ASCII being the same in either case. A needle with a NUL
counts up to it and has to be the end of the text. -/
def Finds (needle text : List Char) : Prop :=
  if '\x00' ∈ needle then folded (readText needle) <:+ folded (readText text)
  else folded (readText needle) <:+: folded (readText text)

end Like

theorem likeMatches_containing_iff (needle : String) (text : List Char) :
    likeMatches (Like.containing needle) text = true ↔ Like.Finds needle.toList text := by
  rw [likeMatches, Like.parse?_readText_containing]
  unfold Like.Finds
  dsimp only
  split
  · exact Like.accepts_ending_iff _ _
  · exact Like.accepts_containing_iff _ _

namespace Like

/-- The database reads the text as it is: there is no NUL in it and no character that reads as
another. -/
def ReadsAsIs (text : List Char) : Prop := readText text = text

instance (text : List Char) : Decidable (ReadsAsIs text) := inferInstanceAs (Decidable (_ = _))

theorem ReadsAsIs.noEnd {text : List Char} (asIs : ReadsAsIs text) : '\x00' ∉ text := by
  intro isEnd
  induction text with
  | nil => simp at isEnd
  | cons char rest ih =>
      rw [ReadsAsIs, readText_cons] at asIs
      split at asIs
      · contradiction
      · rename_i notEnd
        rcases List.mem_cons.mp isEnd with same | later
        · exact notEnd same.symm
        · exact ih (List.cons.inj asIs).2 later

theorem finds_iff_of_readsAsIs {needle text : List Char} (needleAsIs : ReadsAsIs needle)
    (textAsIs : ReadsAsIs text) : Finds needle text ↔ folded needle <:+: folded text := by
  rw [Finds, if_neg needleAsIs.noEnd, needleAsIs, textAsIs]

theorem finds_of_occursIn {needle text : List Char} (needleAsIs : ReadsAsIs needle)
    (textAsIs : ReadsAsIs text) (occurs : occursIn needle text = true) : Finds needle text := by
  rw [finds_iff_of_readsAsIs needleAsIs textAsIs]
  exact ((occursIn_iff needle text).mp occurs).map _

end Like

end ConversionTracking
