import ConversionTracking.Proofs.Pattern.Delimited
import ConversionTracking.Proofs.Pattern.Reasons

/-!
Why a pattern is refused: every part of the reader, and with it the whole, refuses for the form of the
text only or for a reason that stands in the text.
-/

namespace ConversionTracking

namespace Pattern

namespace Reading

variable {text taken : List Char}

/-! ### Escapes -/

section Escapes

theorem hexValue?_lt {char : Char} {value : Nat} (isHex : Unicode.hexValue? char = some value) :
    value < 16 := by
  have codes : '0'.toNat = 48 ∧ '9'.toNat = 57 ∧ 'a'.toNat = 97 ∧ 'f'.toNat = 102 ∧
      'A'.toNat = 65 ∧ 'F'.toNat = 70 := by decide
  have atMost {last : Char} (inRange : char ≤ last) : char.toNat ≤ last.toNat := inRange
  unfold Unicode.hexValue? at isHex
  split at isHex
  next isDigit =>
    cases isHex
    have := atMost isDigit.2
    omega
  · split at isHex
    next isSmall =>
      cases isHex
      have := atMost isSmall.2
      omega
    · split at isHex
      next isLarge =>
        cases isHex
        have := atMost isLarge.2
        omega
      · contradiction

theorem hexNumber_lt (digits : List Char) :
    Unicode.hexNumber digits < Nat.pow 16 digits.length := by
  have grows (total : Nat) : digits.foldl
      (fun total char => total * 16 + (Unicode.hexValue? char).getD 0) total <
        (total + 1) * Nat.pow 16 digits.length := by
    induction digits generalizing total with
    | nil => exact Nat.lt_of_lt_of_eq (Nat.lt_succ_self total) (Nat.mul_one _).symm
    | cons char rest ih =>
        have isDigit : (Unicode.hexValue? char).getD 0 < 16 := by
          cases isHex : Unicode.hexValue? char with
          | none => decide
          | some value => exact hexValue?_lt isHex
        have atMost : total * 16 + (Unicode.hexValue? char).getD 0 + 1 ≤ (total + 1) * 16 := by omega
        calc
          _ < (total * 16 + (Unicode.hexValue? char).getD 0 + 1) * Nat.pow 16 rest.length := ih _
          _ ≤ (total + 1) * 16 * Nat.pow 16 rest.length := Nat.mul_le_mul_right _ atMost
          _ = (total + 1) * Nat.pow 16 (char :: rest).length := by
            rw [Nat.mul_assoc, Nat.mul_comm 16]
            rfl
  have := grows 0
  rwa [Nat.zero_add, Nat.one_mul] at this

theorem keeps_checkedCode (limit code : Nat) : Keeps text taken (checkedCode limit code) := by
  unfold checkedCode
  split
  · exact keeps_refuse
  · exact keeps_pure code

theorem keeps_hexCode {taken : List Char} (digitCount : Nat)
    (reason : ∀ digits, taken ++ digits <:+: text → digits.length = digitCount →
      digits.all Unicode.isHexDigit = true → 0x80000000 ≤ Unicode.hexNumber digits →
      HasReason text .codeTooLarge) :
    Keeps text taken (hexCode digitCount) := by
  refine (explains_takeWhileFuel _ digitCount).bind fun digits => ?_
  refine Explains.of_fact fun areDigits => ?_
  dsimp only
  split
  · exact explains_refuse
  next isWhole =>
    split
    next isLarge =>
      intro progress isAfter
      exact reason digits isAfter.isIn (not_not.mp isWhole) areDigits isLarge
    · exact keeps_checkedCode _ _

theorem keeps_namedCode : Keeps text taken namedCode := by
  refine (keeps_skip '{').bind fun found => ?_
  split
  · refine (keeps_takeName _).bind fun name => ?_
    split
    · exact keeps_pure _
    · exact keeps_refuse
  · exact keeps_refuse

theorem keeps_codeEscape (char : Char) :
    Keeps text ['\\', char] (codeEscape char) := by
  have short {digits : List Char} {digitCount : Nat} (isWhole : digits.length = digitCount)
      (isShort : digitCount ≤ 4) : ¬0x80000000 ≤ Unicode.hexNumber digits := by
    have atMost : Nat.pow 16 digits.length ≤ Nat.pow 16 4 :=
      Nat.pow_le_pow_right (by decide) (isWhole ▸ isShort)
    have inRange := (hexNumber_lt digits).trans_le atMost
    exact fun isLarge => absurd (isLarge.trans_lt inRange) (by decide)
  unfold codeEscape
  split
  · exact keeps_hexCode 2 fun _ _ isWhole _ isLarge => absurd isLarge (short isWhole (by decide))
  · exact keeps_hexCode 4 fun _ _ isWhole _ isLarge => absurd isLarge (short isWhole (by decide))
  · exact keeps_hexCode 8 fun _ isIn isWhole areDigits isLarge =>
      .codeTooLarge isIn isWhole areDigits isLarge
  · exact keeps_namedCode
  · split
    · exact explains_refuse
    · exact keeps_pure _

theorem keeps_setEscape (char : Char) :
    Keeps text ['\\', char] (setEscape char) := by
  unfold setEscape
  split
  · exact keeps_pure _
  · exact keeps_pure _
  · split
    · refine (keeps_takeUpTo _ _).bind fun digits => ?_
      exact (keeps_checkedCode _ _).bind fun code => keeps_pure _
    · split
      · exact explains_refuse
      · exact (keeps_codeEscape char).bind fun code => keeps_pure _

theorem keeps_checkedGroup (group : Nat) : Keeps text taken (checkedGroup group) := by
  refine explains_get_bind fun progress _ => ?_
  dsimp only
  split
  · exact explains_refuse_bind
  · split
    · split
      · exact keeps_refuse
      · exact keeps_pure ()
    · exact keeps_pure ()

theorem keeps_backreference (group : Nat) : Keeps text taken (backreference group) :=
  (keeps_checkedGroup group).bind fun _ => keeps_pure _

theorem keeps_numberEscape (first : Char) : Keeps text taken (numberEscape first) := by
  have goesOn (digits : List Char) : Keeps text []
      (if digits.length = 3 then
        (checkedCode 0o377 (octalNumber digits)) >>= fun code => pure (.literal false code)
      else backreference ((ofDecimalDigits? digits).getD 0)) := by
    split
    · exact (keeps_checkedCode _ _).bind fun _ => keeps_pure _
    · exact keeps_backreference _
  refine (keeps_takeUpTo _ _).bind fun digits => ?_
  dsimp only
  split
  · exact (keeps_takeUpTo _ _).bind fun last => goesOn _
  · exact goesOn _

theorem keeps_escape (char : Char) :
    Keeps text ['\\', char] (escape char) := by
  unfold escape
  split
  · exact keeps_pure _
  · exact keeps_pure _
  · exact keeps_pure _
  · split
    · exact (keeps_takeUpTo _ _).bind fun digits => keeps_pure _
    · split
      · exact keeps_numberEscape char
      · exact (keeps_codeEscape char).bind fun code => keeps_pure _

theorem keeps_setItem (token : Token) :
    Keeps text token.chars (setItem token) := by
  cases token with
  | char char => exact keeps_pure _
  | escape char => exact keeps_setEscape char

theorem keeps_setItems (fuel : Nat) (isFirst : Bool) : Keeps text [] (setItems fuel isFirst) := by
  induction fuel generalizing isFirst with
  | zero => exact keeps_refuse
  | succ fuel ih =>
      rw [setItems]
      refine explains_take.bind fun token? => ?_
      split
      · exact explains_refuse
      next token =>
        split
        · exact keeps_pure _
        · refine (keeps_setItem token).bind fun first => (keeps_skip '-').bind fun isRange => ?_
          split
          · refine explains_take.bind fun last? => ?_
            split
            · exact explains_refuse
            · exact keeps_pure _
            next last _ =>
              refine (keeps_setItem last).bind fun last => ?_
              split
              · split
                · exact keeps_refuse
                · exact (ih false).bind fun _ => keeps_pure _
              · exact keeps_refuse
          · exact (ih false).bind fun _ => keeps_pure _

theorem keeps_charSet : Keeps text taken charSet := by
  refine (keeps_skip '^').bind fun negated => explains_size.bind fun size => ?_
  refine (keeps_setItems size true).bind fun items => ?_
  dsimp only
  split
  · exact keeps_pure _
  · exact keeps_pure _

end Escapes

/-! ### Repetitions -/

section Repetitions

theorem explains_count {before : Progress → Prop} {low high digits : List Char}
    (braces : HasBraces text low high) (isBound : digits = low ∨ digits = high)
    (areDigits : digits.all isAsciiDigit = true) :
    Explains text before (count digits) fun _ => before := by
  unfold count
  dsimp only
  split
  next isLong =>
    exact fun _ _ => .countTooLong braces isBound areDigits isLong
  · split
    next isLarge =>
      have isCount : ofDecimalDigits? digits = some ((ofDecimalDigits? digits).getD 0) := by
        cases isRead : ofDecimalDigits? digits with
        | some count => rfl
        | none =>
            rw [isRead] at isLarge
            exact absurd isLarge (by decide)
      exact fun _ _ => .repetitionTooLarge braces isBound isCount isLarge
    · exact explains_pure _ fun _ => id

theorem keeps_greatest {low high : List Char} (braces : HasBraces text low high)
    (areDigits : high.all isAsciiDigit = true) (least : Nat) :
    Keeps text taken (do
      if high.isEmpty then return some (least, none)
      let greatest ← count high
      if greatest < least then refuse
      return some (least, some greatest)) := by
  split
  · exact keeps_pure _
  · refine (explains_count braces (.inr rfl) areDigits).bind fun greatest => ?_
    dsimp only
    split
    · exact explains_refuse_bind
    · exact keeps_pure _

theorem keeps_closedBounds {low high : List Char} {before : Progress}
    (isBefore : before.IsAfter text ['{']) (lowDigits : low.all isAsciiDigit = true)
    (highDigits : high.all isAsciiDigit = true)
    (braces : taken ++ ['}'] <:+: text → HasBraces text low high) :
    Keeps text taken (do
      if ← skip '}' then
        let least ← if low.isEmpty then pure 0 else count low
        if high.isEmpty then return some (least, none)
        let greatest ← count high
        if greatest < least then refuse
        return some (least, some greatest)
      else
        modify fun progress => { progress with reader := before.reader }
        return none) := by
  refine explains_ifSkip ?closed ?left
  case closed =>
    refine Explains.of_reached (fun _ isAfter => braces isAfter.isIn) fun braces => ?_
    dsimp only
    split
    · exact keeps_greatest braces highDigits 0
    · exact (explains_count braces (.inl rfl) lowDigits).bind (keeps_greatest braces highDigits)
  case left =>
    refine (keeps_modify fun progress isAfter => ?_).bind fun _ => keeps_pure none
    exact ⟨isBefore.atRest.reads, isAfter.ascii, isAfter.unicode⟩

theorem keeps_bounds : Keeps text ['{'] bounds? := by
  refine explains_get_bind fun before isBefore => explains_look.bind fun token => ?_
  split
  · exact keeps_pure _
  refine (explains_takeWhile _).bind fun low => Explains.of_fact fun lowDigits => ?_
  refine (explains_skip ',').bind fun hasComma => ?_
  cases hasComma with
  | true =>
      refine (explains_takeWhile _).bind fun high => Explains.of_fact fun highDigits => ?_
      refine keeps_closedBounds isBefore lowDigits highDigits fun isIn => .range ?_
      simpa using isIn
  | false => exact keeps_closedBounds isBefore lowDigits lowDigits fun isIn => .exact isIn rfl

theorem keeps_repeatKind : Keeps text taken repeatKind := by
  refine (keeps_skip '?').bind fun isLazy => ?_
  split
  · exact keeps_pure _
  · refine (keeps_skip '+').bind fun isPossessive => ?_
    split
    · exact keeps_pure _
    · exact keeps_pure _

theorem keeps_repeatLast (least : Nat) (greatest : Option Nat) (parsed : List Node) :
    Keeps text taken (repeatLast least greatest parsed) := by
  unfold repeatLast
  split
  · exact keeps_refuse
  · exact keeps_refuse
  · exact keeps_refuse
  · exact keeps_repeatKind.bind fun kind => keeps_pure _

end Repetitions

/-! ### Groups -/

section Groups

theorem keeps_openGroup (name : Option String) : Keeps text taken (openGroup name) := by
  refine explains_get_bind fun progress isAfter => ?_
  dsimp only
  split
  · split
    · exact explains_refuse_bind
    · refine (keeps_set ?_).bind fun _ => keeps_pure _
      exact isAfter.atRest.congr rfl rfl
  · refine (keeps_set ?_).bind fun _ => keeps_pure _
    exact isAfter.atRest.congr rfl rfl

theorem keeps_closeGroup (number : Nat) (body : List Node) : Keeps text taken (closeGroup number body) :=
  keeps_modify fun _ isAfter => isAfter.atRest.congr rfl rfl

theorem keeps_groupName (stop : Char) : Keeps text taken (groupName stop) := by
  refine (keeps_takeName stop).bind fun name => ?_
  split
  · exact keeps_pure _
  · exact keeps_refuse

theorem keeps_groupOfName (name : String) : Keeps text taken (groupOfName name) := by
  refine explains_get_bind fun progress _ => ?_
  split
  · exact keeps_pure _
  · exact keeps_refuse

theorem keeps_conditionGroup : Keeps text taken conditionGroup := by
  have checked (group : Nat) : Keeps text [] (do
      let progress ← get
      if progress.behind.isSome then checkedGroup group
      return group) := by
    refine explains_get_bind fun progress _ => ?_
    dsimp only
    split
    · exact (keeps_checkedGroup group).bind fun _ => keeps_pure group
    · exact keeps_pure group
  refine (keeps_takeName ')').bind fun name => ?_
  dsimp only
  split
  · exact (keeps_groupOfName _).bind checked
  · split
    · exact explains_refuse_bind
    · split
      · exact explains_refuse_bind
      · refine (keeps_modify ?_).bind fun _ => checked _
        exact fun _ isAfter => isAfter.congr rfl rfl

theorem keeps_close : Keeps text taken close := by
  refine (keeps_skip ')').bind fun found => ?_
  split
  · exact keeps_refuse
  · exact keeps_pure ()

theorem keeps_skipComment (fuel : Nat) : Keeps text taken (skipComment fuel) := by
  induction fuel generalizing taken with
  | zero => exact keeps_refuse
  | succ fuel ih =>
      refine keeps_take.bind fun token => ?_
      split
      · exact keeps_refuse
      · exact keeps_pure ()
      · exact ih

theorem keeps_skipLine (fuel : Nat) : Keeps text taken (skipLine fuel) := by
  induction fuel generalizing taken with
  | zero => exact keeps_pure ()
  | succ fuel ih =>
      refine keeps_take.bind fun token => ?_
      split
      · exact keeps_pure ()
      · exact keeps_pure ()
      · exact ih

end Groups

/-! ### Modes -/

section ModeGroups

theorem explains_modesOn (fuel : Nat) (token : Token) (before : Modes) {letters : List Char}
    (names : NamesModes letters before) :
    Explains text (Progress.IsAfter text ('(' :: '?' :: (letters ++ token.chars)))
      (modesOn fuel token before) fun result progress => ∃ letters, NamesModes letters result.1 ∧
        progress.IsAfter text ('(' :: '?' :: (letters ++ [result.2])) := by
  induction fuel generalizing token before letters with
  | zero => exact explains_refuse
  | succ fuel ih =>
      rw [modesOn]
      dsimp only
      split
      · exact explains_refuse
      next mode isMode =>
        split
        · exact explains_refuse_bind
        cases token with
        | escape letter => cases isMode
        | char letter =>
            have named := names.union isMode
            have reaches : Explains text
                (Progress.IsAfter text ('(' :: '?' :: (letters ++ [letter]))) take fun token =>
                Progress.IsAfter text ('(' :: '?' :: (letters ++ [letter] ++ taking token)) :=
              explains_take
            refine reaches.bind fun token => ?_
            split
            · exact explains_refuse
            · exact explains_pure _ fun _ isAfter => ⟨_, named, isAfter⟩
            · exact explains_pure _ fun _ isAfter => ⟨_, named, isAfter⟩
            · exact explains_pure _ fun _ isAfter => ⟨_, named, isAfter⟩
            next other _ _ _ => exact ih other _ named

theorem keeps_modesOff (fuel : Nat) (token : Token) (before : Modes) :
    Keeps text taken (modesOff fuel token before) := by
  induction fuel generalizing taken token before with
  | zero => exact keeps_refuse
  | succ fuel ih =>
      rw [modesOff]
      dsimp only
      split
      · exact keeps_refuse
      · split
        · exact explains_refuse_bind
        · refine keeps_take.bind fun token? => ?_
          split
          · exact keeps_refuse
          · exact keeps_pure _
          · exact ih _ _

theorem explains_setModes (on : Modes) : Explains text
    (fun progress => ∃ letters, NamesModes letters on ∧
      progress.IsAfter text ('(' :: '?' :: (letters ++ [')'])))
    (modify fun progress => { progress with modes := progress.modes.union on })
    fun _ => Progress.IsAfter text [] := by
  refine explains_modify fun progress stands => ?_
  obtain ⟨letters, names, isAfter⟩ := stands
  have switches {letter : Char} (isNamed : letter ∈ letters) : SwitchesOn text letter :=
    ⟨letters, isNamed, names.areModes, isAfter.isIn⟩
  refine ⟨isAfter.atRest.reads, ?_, ?_⟩
  · intro isAscii
    rcases Bool.or_eq_true _ _ ▸ isAscii with earlier | now
    · exact isAfter.ascii earlier
    · exact switches (names.ascii now)
  · intro isUnicode
    rcases Bool.or_eq_true _ _ ▸ isUnicode with earlier | now
    · exact isAfter.unicode earlier
    · exact switches (names.unicode now)

theorem keeps_groupModes (first : Char) : Keeps text ['(', '?', first] (groupModes first) := by
  have ends (on off : Modes) : Keeps text [] (do
      if off.template || on.common off ≠ {} then refuse
      return some (on, off)) := by
    dsimp only
    split
    · exact explains_refuse_bind
    · exact keeps_pure _
  rw [groupModes]
  refine explains_ite_bind (fun isOff => ?noneOn)
    (fun _ => explains_size.bind fun size => explains_modesOn size (.char first) {} namesModes_nil)
    fun result => ?_
  case noneOn =>
    refine explains_pure _ fun progress isAfter => ⟨[], namesModes_nil, ?_⟩
    exact isOff ▸ isAfter
  obtain ⟨on, stop⟩ := result
  dsimp only
  split
  next isLast =>
    subst isLast
    exact (explains_setModes on).bind fun _ => keeps_pure none
  · refine Explains.weaken ?_ (fun _ stands => stands.choose_spec.2.atRest) fun _ _ => id
    split
    · exact explains_refuse_bind
    split
    · refine keeps_take.bind fun token => ?_
      split
      · exact explains_refuse_bind
      · exact explains_size.bind fun size => (keeps_modesOff size _ _).bind (ends on)
    · exact ends on {}

theorem keeps_namedOpening : Keeps text taken namedOpening := by
  refine explains_ifSkip ?_ (explains_ifSkip ?_ explains_refuse)
  · exact (keeps_groupName _).bind fun _ => keeps_pure _
  · refine (keeps_groupName _).bind fun name => (keeps_groupOfName name).bind fun group => ?_
    exact (keeps_checkedGroup group).bind fun _ => keeps_pure _

theorem keeps_opening : Keeps text ['('] opening := by
  refine explains_unlessSkip (keeps_pure _) (explains_take.bind fun token => ?_)
  split
  · exact keeps_namedOpening
  · exact keeps_pure _
  · exact keeps_pure _
  · exact keeps_pure _
  · exact keeps_pure _
  · refine keeps_take.bind fun direction => ?_
    split
    · exact keeps_pure _
    · exact keeps_pure _
    · exact keeps_refuse
  · exact keeps_pure _
  · exact keeps_pure _
  next char _ _ _ _ _ _ _ _ =>
    split
    · refine (keeps_groupModes char).bind fun modes => ?_
      split
      · exact keeps_pure _
      · exact keeps_pure _
    · exact explains_refuse
  · exact explains_refuse

end ModeGroups

/-! ### Whole patterns -/

section Patterns

structure AllKeep (text : List Char) (fuel : Nat) : Prop where
  alternation (verbose isWhole : Bool) : Keeps text [] (alternation fuel verbose isWhole)
  branches (verbose isWhole isFirst : Bool) : Keeps text [] (branches fuel verbose isWhole isFirst)
  sequence (verbose mayStart : Bool) (parsed : List Node) :
    Keeps text [] (sequence fuel verbose mayStart parsed)
  grouped (verbose : Bool) (start : Opening) : Keeps text [] (grouped fuel verbose start)

variable {fuel : Nat} (allKeep : AllKeep text fuel)
include allKeep

theorem keeps_alternation (verbose isWhole : Bool) :
    Keeps text [] (alternation (fuel + 1) verbose isWhole) :=
  (allKeep.branches _ _ _).bind fun _ => keeps_pure _

theorem keeps_branches (verbose isWhole isFirst : Bool) :
    Keeps text [] (branches (fuel + 1) verbose isWhole isFirst) := by
  refine (allKeep.sequence _ _ _).bind fun branch => (keeps_skip '|').bind fun isFound => ?_
  split
  · refine explains_get_bind fun progress _ => ?_
    exact (allKeep.branches _ _ _).bind fun _ => keeps_pure _
  · exact keeps_pure _

theorem keeps_sequence (verbose mayStart : Bool) (parsed : List Node) :
    Keeps text [] (sequence (fuel + 1) verbose mayStart parsed) := by
  have continued (part : Node) := allKeep.sequence verbose mayStart (part :: parsed)
  have repeated (least : Nat) (greatest : Option Nat) :
      Keeps text [] (repeatLast least greatest parsed >>= sequence fuel verbose mayStart) :=
    (keeps_repeatLast least greatest parsed).bind fun _ => allKeep.sequence _ _ _
  rw [sequence]
  refine explains_next.bind fun token? => ?_
  split
  · exact explains_pure _ fun _ stands => stands.2
  next token =>
    split
    · exact explains_pure _ fun _ stands => stands.2
    refine (explains_takeNext (some token)).bind fun _ => Explains.of_fact fun _ => ?_
    dsimp only
    split
    next char _ _ => exact (keeps_escape char).bind continued
    next char _ _ =>
      split
      · exact (allKeep.sequence _ _ _).after
      split
      · refine explains_size.bind fun size => (keeps_skipLine size).bind fun _ => ?_
        exact allKeep.sequence _ _ _
      split
      · exact keeps_charSet.bind continued
      · exact (continued _).after
      · exact (continued _).after
      · exact (continued _).after
      · exact (repeated _ _).after
      · exact (repeated _ _).after
      · exact (repeated _ _).after
      · refine keeps_bounds.bind fun bounds => ?_
        split
        · exact repeated _ _
        · exact continued _
      · refine keeps_opening.bind fun start => ?_
        split
        · refine explains_size.bind fun size => (keeps_skipComment size).bind fun _ => ?_
          exact allKeep.sequence _ _ _
        · refine explains_get_bind fun progress _ => ?_
          split
          · exact allKeep.sequence _ _ _
          · exact keeps_refuse
        · exact (allKeep.grouped _ _).bind continued
      · exact (continued _).after

theorem keeps_grouped (verbose : Bool) (start : Opening) :
    Keeps text [] (grouped (fuel + 1) verbose start) := by
  have closed (result : Node) : Keeps text [] (close >>= fun _ => pure result) :=
    keeps_close.bind fun _ => keeps_pure result
  cases start with
  | backreference group => exact keeps_pure _
  | look behind negated =>
      cases behind with
      | false => exact (allKeep.alternation _ _).bind fun body => closed _
      | true =>
          refine explains_get_bind fun progress _ => ?_
          dsimp only
          refine (keeps_modify ?entered).bind fun _ => (allKeep.alternation _ _).bind fun body => ?_
          case entered => exact fun _ isAfter => isAfter.congr rfl rfl
          refine (keeps_modify ?left).bind fun _ => keeps_close.bind fun _ => ?_
          case left => exact fun _ isAfter => isAfter.congr rfl rfl
          exact explains_get_bind fun progress _ => keeps_pure _
  | condition =>
      have ends (yes no : List Node) (hasNo : Bool) (group : Nat) : Keeps text [] (do
          if (← next) = some (.char '|') then refuse
          close
          return Node.conditional group yes no hasNo) := by
        refine explains_look.bind fun token => ?_
        dsimp only
        split
        · exact explains_refuse_bind
        · exact closed _
      refine keeps_conditionGroup.bind fun group => (allKeep.sequence _ _ _).bind fun yes => ?_
      refine (keeps_skip '|').bind fun hasNo => ?_
      dsimp only
      split
      · exact (allKeep.sequence _ _ _).bind fun no => ends yes no hasNo group
      · exact ends yes [] hasNo group
  | atomic => exact (allKeep.alternation _ _).bind fun body => closed _
  | plain on off => exact (allKeep.alternation _ _).bind fun body => closed _
  | capture name =>
      refine (keeps_openGroup name).bind fun number => (allKeep.alternation _ _).bind fun body => ?_
      exact keeps_close.bind fun _ => (keeps_closeGroup number body).bind fun _ => keeps_pure _
  | comment => exact keeps_refuse
  | globalModes => exact keeps_refuse

end Patterns

theorem allKeep (text : List Char) (fuel : Nat) : AllKeep text fuel := by
  induction fuel with
  | zero =>
      exact ⟨fun _ _ => keeps_refuse, fun _ _ _ => keeps_refuse, fun _ _ _ => keeps_refuse,
        fun _ _ => keeps_refuse⟩
  | succ fuel ih =>
      exact ⟨keeps_alternation ih, keeps_branches ih, keeps_sequence ih, keeps_grouped ih⟩

end Reading

section Parsing

variable {α β : Type} {text : List Char}

def IsExplained (text : List Char) (result : Except Fault α) : Prop :=
  ∀ fault, result = .error fault → HasReason text fault

theorem isExplained_bind {first : Except Fault α} {next : α → Except Fault β}
    (explained : IsExplained text first)
    (rest : ∀ value, first = .ok value → IsExplained text (next value)) :
    IsExplained text (first >>= next) := by
  cases first with
  | error fault =>
      intro other fails
      cases fails
      exact explained fault rfl
  | ok value => exact rest value rfl

theorem isExplained_guard {condition : Prop} [Decidable condition] {fault : Fault}
    {rest : Unit → Except Fault β} (reason : condition → HasReason text fault)
    (explained : IsExplained text (rest ())) :
    IsExplained text (if condition then throw fault >>= rest else rest ()) := by
  split
  next holds =>
    intro other fails
    cases fails
    exact reason holds
  · exact explained

/-- A choice of character classes that is made twice comes from the text, when none is made
beforehand. -/
theorem isExplained_parse {modes : Modes} (noAscii : modes.ascii = false)
    (noUnicode : modes.unicode = false) (text : String) :
    IsExplained text.toList (parse modes text) := by
  refine isExplained_bind ?_ fun reader starts => ?_
  · intro fault fails
    exact Reader.malformed_of_ofChars fails ▸ .malformed
  have isStart : Progress.IsAfter text.toList [] ⟨reader, modes, [some .zero], [], none, []⟩ := by
    refine ⟨?_, by simp [noAscii], by simp [noUnicode]⟩
    rw [Reader.chars_of_ofChars starts]
    exact List.suffix_rfl
  have explained := (Reading.allKeep text.toList (4 * text.toList.length + 8)).alternation
    modes.verbose true _ isStart
  refine isExplained_bind ?_ fun read isRead => ?_
  · intro fault fails
    rw [StateT.run] at fails
    rw [fails] at explained
    exact explained
  · rw [StateT.run] at isRead
    rw [isRead] at explained
    dsimp only
    refine isExplained_guard (fun isBoth => ?_) ?_
    · obtain ⟨isAscii, isUnicode⟩ := (Bool.and_eq_true _ _).mp isBoth
      exact .incompatibleModes (explained.ascii isAscii) (explained.unicode isUnicode)
    refine isExplained_guard (fun _ => .malformed) ?_
    refine isExplained_guard (fun _ => .malformed) ?_
    exact isExplained_guard (fun _ => .malformed) nofun

end Parsing

theorem source_modes (text : String) :
    (source text).2.ascii = false ∧ (source text).2.unicode = false := by
  by_cases isDelimited : ∃ mark body tail, Delimits text mark body tail
  · obtain ⟨mark, body, tail, delimits⟩ := isDelimited
    rw [source_of_delimits delimits]
    exact ⟨rfl, rfl⟩
  · rw [source_of_not_delimits fun mark body tail delimits => isDelimited ⟨mark, body, tail, delimits⟩]
    exact ⟨rfl, rfl⟩

def refusal? (text : String) : Option Fault :=
  match compile text with
  | .ok _ => none
  | .error fault => some fault

theorem refusal?_eq_some_iff (text : String) (fault : Fault) :
    refusal? text = some fault ↔ compile text = .error fault := by
  unfold refusal?
  cases compile text with
  | ok pattern => simp
  | error other => simp

/-- Each refusal of a pattern has its reason in the pattern proper. -/
theorem hasReason_of_compile {text : String} {fault : Fault} (refused : compile text = .error fault) :
    HasReason (source text).1.toList fault :=
  isExplained_parse (source_modes text).1 (source_modes text).2 _ fault refused

example :
    ["[", "a\x7b4294967295\x7d", "\\U80000000", "(?a)(?u)", "[a\x7b4294967295\x7d"].map refusal? =
      [some .malformed, some .repetitionTooLarge, some .codeTooLarge, some .incompatibleModes,
        some .malformed] := by
  decide +kernel

end Pattern

end ConversionTracking
