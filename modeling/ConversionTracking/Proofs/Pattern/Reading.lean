import ConversionTracking.Pattern.Parser

/-!
How a character is quoted so that a pattern means just that character, and what the reader of
patterns makes of quoted characters and of runs of any characters.
-/

namespace ConversionTracking

namespace Pattern

def specials : List Char := "()[]\x7b\x7d?*+-|^$\\.&~# \t\n\r\x0b\x0c".toList

def quoted (char : Char) : List Char := if char ∈ specials then ['\\', char] else [char]

theorem Reader.ofChars_escape (char : Char) (rest : List Char) :
    Reader.ofChars ('\\' :: char :: rest) = .ok ⟨some (.escape char), rest⟩ := rfl

theorem Reader.ofChars_of_ne {char : Char} (notEscape : char ≠ '\\') (rest : List Char) :
    Reader.ofChars (char :: rest) = .ok ⟨some (.char char), rest⟩ := by
  rw [Reader.ofChars]
  · exact fun isEscape _ => notEscape isEscape
  · exact fun _ _ isEscape _ => notEscape isEscape

namespace Progress

def movedTo (progress : Progress) (reader : Reader) : Progress := { progress with reader }

variable (progress : Progress) (reader later : Reader)

theorem movedTo_movedTo : (progress.movedTo reader).movedTo later = progress.movedTo later := rfl

theorem movedTo_self : progress.movedTo progress.reader = progress := rfl

end Progress

namespace Reading

theorem bind_of_ok {α β : Type} {read : Reading α} {progress later : Progress} {result : α}
    (isRead : read progress = .ok (result, later)) (continued : α → Reading β) :
    (read >>= continued) progress = continued result later := by
  simp only [bind, StateT.bind, isRead, Except.bind]

variable {progress : Progress}

theorem next_eq_ok : next progress = .ok (progress.reader.next, progress) := rfl

theorem take_eq_ok {after : Reader} (reads : Reader.ofChars progress.reader.rest = .ok after) :
    take progress = .ok (progress.reader.next, progress.movedTo after) := by
  simp only [take, bind, StateT.bind, get, getThe, MonadStateOf.get, StateT.get, pure, Except.pure,
    Except.bind, reads, liftM, monadLift, MonadLift.monadLift, StateT.lift]
  rfl

theorem skip_of_ne {char : Char} (isOther : progress.reader.next ≠ some (.char char)) :
    skip char progress = .ok (false, progress) := by
  rw [skip, bind_of_ok next_eq_ok, if_neg isOther]
  rfl

theorem repeatKind_eq_greedy (notLazy : progress.reader.next ≠ some (.char '?'))
    (notPossessive : progress.reader.next ≠ some (.char '+')) :
    repeatKind progress = .ok (.greedy, progress) := by
  rw [repeatKind, bind_of_ok (skip_of_ne notLazy), if_neg Bool.false_ne_true,
    bind_of_ok (skip_of_ne notPossessive)]
  rfl

theorem codeEscape_of_not_letter {char : Char} (notLetter : isLatinLetter char = false) :
    codeEscape char = pure char.toNat := by
  unfold codeEscape
  split
  case h_5 => rw [if_neg (by simp [notLetter])]
  all_goals exact absurd notLetter (by decide)

theorem escape_special {char : Char} (special : char ∈ specials) :
    escape char progress = .ok (.literal false char.toNat, progress) := by
  have meanings : specials.all (fun char => decide (anchor? char = none ∧ charClass? char = none ∧
      (controlCode? char = none ∨ controlCode? char = some char.toNat) ∧ char ≠ '0' ∧
      isAsciiDigit char = false ∧ isLatinLetter char = false)) = true := by decide +kernel
  obtain ⟨noAnchor, noClass, code, notZero, notDigit, notLetter⟩ :=
    of_decide_eq_true (List.all_eq_true.mp meanings char special)
  rw [escape, noAnchor, noClass]
  rcases code with noCode | code
  · rw [noCode]
    dsimp only
    rw [if_neg notZero, if_neg (by simp [notDigit]), codeEscape_of_not_letter notLetter]
    rfl
  · rw [code]
    rfl

section Sequence

variable {after : Reader} {char : Char} (fuel : Nat) (mayStart : Bool) (parsed : List Node)

theorem sequence_end (isNext : progress.reader.next = none) :
    sequence (fuel + 1) false mayStart parsed progress =
      .ok (dissolved parsed.reverse, progress) := by
  rw [sequence, bind_of_ok next_eq_ok, isNext]
  rfl

theorem sequence_ordinary (ordinary : char ∉ specials)
    (isNext : progress.reader.next = some (.char char))
    (reads : Reader.ofChars progress.reader.rest = .ok after) :
    sequence (fuel + 1) false mayStart parsed progress =
      sequence fuel false mayStart (.literal false char.toNat :: parsed)
        (progress.movedTo after) := by
  have goesOn : ¬((decide (Token.char char = .char '|') ||
      decide (Token.char char = .char ')')) = true) := by
    simp only [Bool.or_eq_true, decide_eq_true_eq, Token.char.injEq]
    rintro (rfl | rfl)
    · exact ordinary (by decide)
    · exact ordinary (by decide)
  rw [sequence, bind_of_ok next_eq_ok, isNext]
  dsimp only
  rw [if_neg goesOn, bind_of_ok (take_eq_ok reads)]
  simp only [Bool.false_and, Bool.false_eq_true, if_false]
  split
  case h_10 => rfl
  all_goals exact absurd (by decide) ordinary

theorem sequence_special (special : char ∈ specials)
    (isNext : progress.reader.next = some (.escape char))
    (reads : Reader.ofChars progress.reader.rest = .ok after) :
    sequence (fuel + 1) false mayStart parsed progress =
      sequence fuel false mayStart (.literal false char.toNat :: parsed)
        (progress.movedTo after) := by
  rw [sequence, bind_of_ok next_eq_ok, isNext]
  dsimp only
  rw [if_neg (by simp), bind_of_ok (take_eq_ok reads), bind_of_ok (escape_special special)]

theorem sequence_any (isNext : progress.reader.next = some (.char '.'))
    (reads : Reader.ofChars progress.reader.rest = .ok after) :
    sequence (fuel + 1) false mayStart parsed progress =
      sequence fuel false mayStart (.any :: parsed) (progress.movedTo after) := by
  rw [sequence, bind_of_ok next_eq_ok, isNext]
  dsimp only
  rw [if_neg (by decide), bind_of_ok (take_eq_ok reads)]
  simp only [Bool.false_and, Bool.false_eq_true, if_false]

theorem sequence_star (isNext : progress.reader.next = some (.char '*'))
    (reads : Reader.ofChars progress.reader.rest = .ok after)
    (notLazy : after.next ≠ some (.char '?')) (notPossessive : after.next ≠ some (.char '+')) :
    sequence (fuel + 1) false mayStart (.any :: parsed) progress =
      sequence fuel false mayStart (.repetition .greedy 0 none [.any] :: parsed)
        (progress.movedTo after) := by
  have repeats : repeatLast 0 none (.any :: parsed) (progress.movedTo after) =
      .ok (.repetition .greedy 0 none [.any] :: parsed, progress.movedTo after) := by
    simp only [repeatLast]
    rw [bind_of_ok (repeatKind_eq_greedy notLazy notPossessive)]
    rfl
  rw [sequence, bind_of_ok next_eq_ok, isNext]
  dsimp only
  rw [if_neg (by decide), bind_of_ok (take_eq_ok reads)]
  simp only [Bool.false_and, Bool.false_eq_true, if_false]
  rw [bind_of_ok repeats]

theorem alternation_of_sequence {later : Progress}
    (isRead : sequence fuel false true [] progress = .ok (parsed, later))
    (isEnd : later.reader.next = none) :
    alternation (fuel + 2) false true progress = .ok (parsed, later) := by
  have isOnly : branches (fuel + 1) false true true progress = .ok ([parsed], later) := by
    rw [branches, Bool.true_and, bind_of_ok isRead, bind_of_ok (skip_of_ne (by rw [isEnd]; nofun))]
    rfl
  rw [alternation, bind_of_ok isOnly]
  rfl

end Sequence

end Reading

theorem parse_of_sequence {modes : Modes} {text : String} {reader : Reader} {parsed : List Node}
    (plain : modes.verbose = false) (oneKind : (modes.ascii && modes.unicode) = false)
    (starts : Reader.ofChars text.toList = .ok reader)
    (isRead : Reading.sequence (4 * text.toList.length + 6) false true []
        ⟨reader, modes, [some .zero], [], none, []⟩ =
      .ok (parsed, ⟨⟨none, []⟩, modes, [some .zero], [], none, []⟩))
    (sound : Node.areSound modes.template parsed = true) :
    ∃ pattern, parse modes text = .ok pattern ∧ pattern.modes = modes ∧ pattern.body = parsed := by
  have isWhole := Reading.alternation_of_sequence _ parsed isRead rfl
  simp only [parse, starts, plain, bind, Except.bind, StateT.run, isWhole, oneKind, sound]
  exact ⟨_, rfl, rfl, rfl⟩

end Pattern

end ConversionTracking
