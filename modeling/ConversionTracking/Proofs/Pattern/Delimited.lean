import ConversionTracking.Pattern.Delimited
import Mathlib.Data.List.TakeWhile

/-!
Which texts are patterns between delimiters. There is one way at most to read a text so, whatever
stands between the delimiters, and the letters after them count in any order and any number.
-/

namespace ConversionTracking

namespace Pattern

inductive Closes : Char → Char → Prop where
  | brace : Closes '{' '}'
  | angle : Closes '<' '>'
  | itself {mark : Char} (notBrace : mark ≠ '{') (notAngle : mark ≠ '<') : Closes mark mark

def modifierLetters : List Char := ['i', 'm', 's', 'x', 'u']

/-- The text is a body between two marks, with letters for modes after the second one. -/
structure Delimits (text : String) (mark : Char) (body tail : List Char) : Prop where
  notAlphanumeric : Unicode.isAlphanumeric mark = false
  notPlain : mark ∉ ['\\', ' ', '^', '(', '.', '[']
  reads : ∃ closing, Closes mark closing ∧ text.toList = mark :: (body ++ closing :: tail)
  letters : ∀ letter ∈ tail, letter ∈ modifierLetters

def modesNamed (letters : List Char) : Modes where
  ignoreCase := letters.contains 'i'
  multiline := letters.contains 'm'
  dotAll := letters.contains 's'
  verbose := letters.contains 'x'

theorem closes_iff (mark closing : Char) : Closes mark closing ↔ closing = closingDelimiter mark := by
  constructor
  · rintro (_ | _ | ⟨notBrace, notAngle⟩)
    · rfl
    · rfl
    · rw [closingDelimiter]
      · exact notBrace
      · exact notAngle
  · rintro rfl
    unfold closingDelimiter
    split
    · exact .brace
    · exact .angle
    next notBrace notAngle => exact .itself notBrace notAngle

theorem opensDelimited_iff (mark : Char) :
    opensDelimited mark = true ↔
      Unicode.isAlphanumeric mark = false ∧ mark ∉ ['\\', ' ', '^', '(', '.', '['] := by
  have plain : "\\ ^(.[".toList = ['\\', ' ', '^', '(', '.', '['] := rfl
  rw [opensDelimited, plain, Bool.and_eq_true, Bool.not_eq_true', Bool.not_eq_true',
    List.contains_eq_mem, decide_eq_false_iff_not]

theorem closingDelimiter_not_mem {mark : Char} (opens : opensDelimited mark = true) {tail : List Char}
    (letters : ∀ letter ∈ tail, letter ∈ modifierLetters) : closingDelimiter mark ∉ tail := by
  intro isMember
  have isLetter := letters _ isMember
  have alphanumeric : modifierLetters.all Unicode.isAlphanumeric = true := by decide +kernel
  have closes := (closes_iff mark _).mpr rfl
  generalize closingDelimiter mark = closing at closes isLetter
  cases closes with
  | brace => exact absurd isLetter (by decide)
  | angle => exact absurd isLetter (by decide)
  | itself =>
      have notAlphanumeric := ((opensDelimited_iff mark).mp opens).1
      exact Bool.false_ne_true
        (notAlphanumeric.symm.trans (List.all_eq_true.mp alphanumeric mark isLetter))

section SplitLast

variable {char : Char}

theorem splitLast_append {tail : List Char} (isLast : char ∉ tail) (before : List Char) :
    splitLast char (before ++ char :: tail) = some (before, tail) := by
  have kept : ((before ++ char :: tail).reverse.takeWhile (· ≠ char)).reverse = tail := by
    have others : ∀ other ∈ tail.reverse, decide (other ≠ char) = true := by
      intro other isMember
      rw [decide_eq_true_eq]
      rintro rfl
      exact isLast (List.mem_reverse.mp isMember)
    rw [List.reverse_append, List.reverse_cons, List.append_assoc, List.singleton_append,
      List.takeWhile_append_of_pos others, List.takeWhile_cons_of_neg (by simp), List.append_nil,
      List.reverse_reverse]
  have shorter : tail.length < (before ++ char :: tail).length := by
    rw [List.length_append, List.length_cons]
    omega
  have rest : (before ++ char :: tail).length - tail.length - 1 = before.length := by
    rw [List.length_append, List.length_cons]
    omega
  simp only [splitLast, kept]
  rw [if_pos shorter, rest, List.take_left]

theorem splitLast_of_not_mem {chars : List Char} (isMissing : char ∉ chars) :
    splitLast char chars = none := by
  have kept : (chars.reverse.takeWhile (· ≠ char)).reverse = chars := by
    rw [List.takeWhile_eq_self_iff.mpr, List.reverse_reverse]
    intro other isMember
    rw [decide_eq_true_eq]
    rintro rfl
    exact isMissing (List.mem_reverse.mp isMember)
  simp only [splitLast, kept]
  rw [if_neg (Nat.lt_irrefl _)]

theorem exists_last {chars : List Char} (isMember : char ∈ chars) :
    ∃ before tail, chars = before ++ char :: tail ∧ char ∉ tail := by
  obtain ⟨tail, before, isSplit, isLast⟩ :=
    List.eq_append_cons_of_mem (List.mem_reverse.mpr isMember)
  refine ⟨before.reverse, tail.reverse, ?_, by rwa [List.mem_reverse]⟩
  rw [← List.reverse_reverse chars, isSplit, List.reverse_append, List.reverse_cons,
    List.append_assoc, List.singleton_append]

theorem splitLast_eq_some_iff (chars before tail : List Char) :
    splitLast char chars = some (before, tail) ↔ chars = before ++ char :: tail ∧ char ∉ tail := by
  constructor
  · intro isSplit
    by_cases isMember : char ∈ chars
    · obtain ⟨first, last, rfl, isLast⟩ := exists_last isMember
      rw [splitLast_append isLast] at isSplit
      obtain ⟨rfl, rfl⟩ := Prod.mk.inj (Option.some.inj isSplit)
      exact ⟨rfl, isLast⟩
    · rw [splitLast_of_not_mem isMember] at isSplit
      contradiction
  · rintro ⟨rfl, isLast⟩
    exact splitLast_append isLast before

end SplitLast

theorem modifier?_eq_some_iff (letter : Char) (mode : Modes) :
    modifier? letter = some mode ↔ letter ∈ modifierLetters ∧ mode = modesNamed [letter] := by
  constructor
  · intro isModifier
    unfold modifier? at isModifier
    split at isModifier <;> cases isModifier <;> decide
  · rintro ⟨isLetter, rfl⟩
    have areModifiers : modifierLetters.all
        (fun letter => modifier? letter == some (modesNamed [letter])) = true := by decide
    exact eq_of_beq (List.all_eq_true.mp areModifiers letter isLetter)

theorem modesNamed_cons (letter : Char) (letters : List Char) (before : Modes) :
    (before.union (modesNamed [letter])).union (modesNamed letters) =
      before.union (modesNamed (letter :: letters)) := by
  simp [Modes.union, modesNamed, Bool.or_assoc]

theorem union_modesNamed_nil (before : Modes) : before.union (modesNamed []) = before := by
  simp [Modes.union, modesNamed]

theorem mapM_modifier?_eq_some_iff (tail : List Char) (modes : List Modes) :
    tail.mapM modifier? = some modes ↔
      (∀ letter ∈ tail, letter ∈ modifierLetters) ∧
        modes = tail.map fun letter => modesNamed [letter] := by
  induction tail generalizing modes with
  | nil => simp [eq_comm]
  | cons letter rest ih =>
      rw [List.mapM_cons, List.forall_mem_cons, List.map_cons]
      simp only [Option.bind_eq_bind, Option.bind_eq_some_iff, modifier?_eq_some_iff, ih,
        Option.pure_def, Option.some.injEq]
      constructor
      · rintro ⟨_, ⟨isLetter, rfl⟩, _, ⟨areLetters, rfl⟩, rfl⟩
        exact ⟨⟨isLetter, areLetters⟩, rfl⟩
      · rintro ⟨⟨isLetter, areLetters⟩, rfl⟩
        exact ⟨_, ⟨isLetter, rfl⟩, _, ⟨areLetters, rfl⟩, rfl⟩

theorem foldl_union_modesNamed (tail : List Char) (before : Modes) :
    (tail.map fun letter => modesNamed [letter]).foldl Modes.union before =
      before.union (modesNamed tail) := by
  induction tail generalizing before with
  | nil => exact (union_modesNamed_nil before).symm
  | cons letter rest ih => rw [List.map_cons, List.foldl_cons, ih, modesNamed_cons]

theorem modifiers?_eq_some_iff (tail : List Char) (modes : Modes) :
    modifiers? tail = some modes ↔
      (∀ letter ∈ tail, letter ∈ modifierLetters) ∧ modes = modesNamed tail := by
  rw [modifiers?, Option.map_eq_some_iff]
  simp only [mapM_modifier?_eq_some_iff]
  have union_start (later : Modes) : ({} : Modes).union later = later := by
    simp [Modes.union]
  constructor
  · rintro ⟨_, ⟨areLetters, rfl⟩, rfl⟩
    exact ⟨areLetters, by rw [foldl_union_modesNamed, union_start]⟩
  · rintro ⟨areLetters, rfl⟩
    exact ⟨_, ⟨areLetters, rfl⟩, by rw [foldl_union_modesNamed, union_start]⟩

theorem delimited?_eq_some_iff (text : String) (body : List Char) (modes : Modes) :
    delimited? text.toList = some (body, modes) ↔
      ∃ mark tail, Delimits text mark body tail ∧ modes = modesNamed tail := by
  constructor
  · intro isRead
    unfold delimited? at isRead
    split at isRead
    next mark rest isText =>
      split at isRead
      next opens =>
        split at isRead
        next before tail isSplit =>
          obtain ⟨given, areModifiers, isGiven⟩ := Option.map_eq_some_iff.mp isRead
          obtain ⟨rfl, rfl⟩ := Prod.mk.inj isGiven
          obtain ⟨letters, rfl⟩ := (modifiers?_eq_some_iff tail given).mp areModifiers
          obtain ⟨rfl, _⟩ := (splitLast_eq_some_iff _ _ _).mp isSplit
          obtain ⟨notAlphanumeric, notPlain⟩ := (opensDelimited_iff mark).mp opens
          exact ⟨mark, tail, ⟨notAlphanumeric, notPlain,
            ⟨_, (closes_iff mark _).mpr rfl, isText⟩, letters⟩, rfl⟩
        next => cases isRead
      next => cases isRead
    next => cases isRead
  · rintro ⟨mark, tail, ⟨notAlphanumeric, notPlain, ⟨closing, closes, isText⟩, letters⟩, rfl⟩
    have opens := (opensDelimited_iff mark).mpr ⟨notAlphanumeric, notPlain⟩
    rw [(closes_iff mark closing).mp closes] at isText
    have isSplit := splitLast_append (closingDelimiter_not_mem opens letters) body
    have areModifiers := (modifiers?_eq_some_iff tail _).mpr ⟨letters, rfl⟩
    simp only [isText, delimited?, opens, isSplit, areModifiers, if_true, Option.map_some]

theorem Delimits.unique {text : String} {mark otherMark : Char}
    {body tail otherBody otherTail : List Char} (delimits : Delimits text mark body tail)
    (others : Delimits text otherMark otherBody otherTail) :
    otherMark = mark ∧ otherBody = body ∧ otherTail = tail := by
  obtain ⟨closing, closes, isText⟩ := delimits.reads
  obtain ⟨otherClosing, otherCloses, isOtherText⟩ := others.reads
  obtain ⟨rfl, sameRest⟩ := List.cons.inj (isText.symm.trans isOtherText)
  have opens := (opensDelimited_iff mark).mpr ⟨delimits.notAlphanumeric, delimits.notPlain⟩
  rw [(closes_iff mark closing).mp closes, (closes_iff mark otherClosing).mp otherCloses] at sameRest
  -- The closing mark is the last one of its kind in either reading.
  have isSplit := splitLast_append (closingDelimiter_not_mem opens delimits.letters) body
  have isOtherSplit := splitLast_append (closingDelimiter_not_mem opens others.letters) otherBody
  rw [← sameRest, isSplit] at isOtherSplit
  obtain ⟨sameBody, sameTail⟩ := Prod.mk.inj (Option.some.inj isOtherSplit)
  exact ⟨rfl, sameBody.symm, sameTail.symm⟩

theorem source_of_delimits {text : String} {mark : Char} {body tail : List Char}
    (delimits : Delimits text mark body tail) :
    source text = (String.ofList body, modesNamed tail) := by
  rw [source, (delimited?_eq_some_iff text body _).mpr ⟨mark, tail, delimits, rfl⟩]

theorem source_of_not_delimits {text : String}
    (isPlain : ∀ mark body tail, ¬Delimits text mark body tail) : source text = (text, {}) := by
  rw [source]
  cases isRead : delimited? text.toList with
  | none => rfl
  | some found =>
      obtain ⟨mark, tail, delimits, _⟩ := (delimited?_eq_some_iff text found.1 found.2).mp isRead
      exact absurd delimits (isPlain mark found.1 tail)

/-- A text with a body between two marks and letters after them is the pattern of the body, in the modes
of the letters; there is one way to read it so. Any other text is the pattern of itself. -/
theorem compile_delimited (text : String) :
    (∀ mark body tail, Delimits text mark body tail →
      (∀ otherMark otherBody otherTail, Delimits text otherMark otherBody otherTail →
        otherMark = mark ∧ otherBody = body ∧ otherTail = tail) ∧
      source text = (String.ofList body, modesNamed tail) ∧
      compile text = parse (modesNamed tail) (String.ofList body)) ∧
    ((∀ mark body tail, ¬Delimits text mark body tail) →
      source text = (text, {}) ∧ compile text = parse {} text) := by
  constructor
  · intro mark body tail delimits
    have isSource := source_of_delimits delimits
    refine ⟨fun _ _ _ => delimits.unique, isSource, ?_⟩
    rw [compile, isSource]
  · intro isPlain
    have isSource := source_of_not_delimits isPlain
    refine ⟨isSource, ?_⟩
    rw [compile, isSource]

example : source "/a/b/xi" = ("a/b", { ignoreCase := true, verbose := true }) ∧
    source "\x7b\x7d\x7d" = ("\x7d", {}) ∧
    source "/checkout/.*" = ("/checkout/.*", {}) := by
  decide +kernel

end Pattern

end ConversionTracking
