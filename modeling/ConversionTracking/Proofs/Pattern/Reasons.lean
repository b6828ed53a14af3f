import ConversionTracking.Proofs.Pattern.Reading

/-!
What in the text of a pattern a refusal is for, and how a reader is followed from the text to it: what it
has just taken stands in the text right before what it has left.
-/

namespace ConversionTracking

namespace Pattern

/-- A repetition between these bounds stands in the text. With one count, that count is both. -/
inductive HasBraces (text low high : List Char) : Prop where
  | exact (isIn : '{' :: (low ++ ['}']) <:+: text) (same : high = low)
  | range (isIn : '{' :: (low ++ ',' :: (high ++ ['}'])) <:+: text)

def SwitchesOn (text : List Char) (letter : Char) : Prop :=
  ∃ letters, letter ∈ letters ∧ (∀ other ∈ letters, (Modes.ofLetter? other).isSome = true) ∧
    '(' :: '?' :: (letters ++ [')']) <:+: text

/-- What in the text a refusal is for, if it is for more than the form. -/
inductive HasReason (text : List Char) : Fault → Prop where
  | malformed : HasReason text .malformed
  | repetitionTooLarge {low high digits : List Char} {count : Nat} (braces : HasBraces text low high)
      (isBound : digits = low ∨ digits = high) (isCount : ofDecimalDigits? digits = some count)
      (isLarge : 4294967295 ≤ count) : HasReason text .repetitionTooLarge
  | countTooLong {low high digits : List Char} (braces : HasBraces text low high)
      (isBound : digits = low ∨ digits = high) (areDigits : digits.all isAsciiDigit = true)
      (isLong : wholeDigitLimit < digits.length) : HasReason text (.countTooLong digits.length)
  | codeTooLarge {digits : List Char} (isIn : '\\' :: 'U' :: digits <:+: text)
      (isWhole : digits.length = 8) (areDigits : digits.all Unicode.isHexDigit = true)
      (isLarge : 0x80000000 ≤ Unicode.hexNumber digits) : HasReason text .codeTooLarge
  | incompatibleModes (ascii : SwitchesOn text 'a') (unicode : SwitchesOn text 'u') :
      HasReason text .incompatibleModes

structure NamesModes (letters : List Char) (modes : Modes) : Prop where
  areModes : ∀ letter ∈ letters, (Modes.ofLetter? letter).isSome = true
  ascii : modes.ascii = true → 'a' ∈ letters
  unicode : modes.unicode = true → 'u' ∈ letters

theorem namesModes_nil : NamesModes [] {} := ⟨nofun, nofun, nofun⟩

theorem NamesModes.union {letters : List Char} {before mode : Modes} {letter : Char}
    (names : NamesModes letters before) (isMode : Modes.ofLetter? letter = some mode) :
    NamesModes (letters ++ [letter]) (before.union mode) := by
  have switched : (mode.ascii = true → letter = 'a') ∧ (mode.unicode = true → letter = 'u') := by
    unfold Modes.ofLetter? at isMode
    split at isMode <;> cases isMode <;> decide
  refine ⟨?_, ?_, ?_⟩
  · intro other isMember
    rcases List.mem_append.mp isMember with earlier | isLast
    · exact names.areModes other earlier
    · rw [List.mem_singleton.mp isLast, isMode]
      rfl
  · intro isAscii
    rcases Bool.or_eq_true _ _ ▸ isAscii with earlier | now
    · exact List.mem_append_left _ (names.ascii earlier)
    · simp [switched.1 now]
  · intro isUnicode
    rcases Bool.or_eq_true _ _ ▸ isUnicode with earlier | now
    · exact List.mem_append_left _ (names.unicode earlier)
    · simp [switched.2 now]

def taking (token : Option Token) : List Char := token.elim [] Token.chars

def Reader.chars (reader : Reader) : List Char := taking reader.next ++ reader.rest

theorem Reader.chars_of_ofChars {chars : List Char} {reader : Reader}
    (reads : ofChars chars = .ok reader) : reader.chars = chars := by
  unfold ofChars at reads
  split at reads <;> cases reads <;> rfl

theorem Reader.malformed_of_ofChars {chars : List Char} {fault : Fault}
    (fails : ofChars chars = .error fault) : fault = .malformed := by
  unfold ofChars at fails
  split at fails <;> cases fails
  rfl

structure Progress.IsAfter (text taken : List Char) (progress : Progress) : Prop where
  reads : taken ++ progress.reader.chars <:+ text
  ascii : progress.modes.ascii = true → SwitchesOn text 'a'
  unicode : progress.modes.unicode = true → SwitchesOn text 'u'

namespace Progress.IsAfter

variable {text taken : List Char} {progress : Progress}

theorem dropped {earlier : List Char} (isAfter : progress.IsAfter text (earlier ++ taken)) :
    progress.IsAfter text taken := by
  refine { isAfter with reads := List.IsSuffix.trans ⟨earlier, ?_⟩ isAfter.reads }
  rw [List.append_assoc]

theorem atRest (isAfter : progress.IsAfter text taken) : progress.IsAfter text [] := by
  rw [← List.append_nil taken] at isAfter
  exact isAfter.dropped

theorem congr {later : Progress} (isAfter : progress.IsAfter text taken)
    (sameReader : later.reader = progress.reader) (sameModes : later.modes = progress.modes) :
    later.IsAfter text taken := by
  refine ⟨?_, ?_, ?_⟩
  · rw [sameReader]
    exact isAfter.reads
  · rw [sameModes]
    exact isAfter.ascii
  · rw [sameModes]
    exact isAfter.unicode

theorem isIn (isAfter : progress.IsAfter text taken) : taken <:+: text :=
  (List.infix_append [] taken progress.reader.chars).trans isAfter.reads.isInfix

end Progress.IsAfter

namespace Reading

variable {α β : Type} {text : List Char}

/-- Reading where the first condition holds leads to where the second holds, or fails for a reason that
the text has. -/
def Explains (text : List Char) (before : Progress → Prop) (read : Reading α)
    (after : α → Progress → Prop) : Prop :=
  ∀ progress, before progress →
    match read progress with
    | .ok (result, later) => after result later
    | .error fault => HasReason text fault

theorem Explains.weaken {before stronger : Progress → Prop} {read : Reading α}
    {after weaker : α → Progress → Prop} (explains : Explains text before read after)
    (starts : ∀ progress, stronger progress → before progress)
    (ends : ∀ result progress, after result progress → weaker result progress) :
    Explains text stronger read weaker := by
  intro progress stands
  have explained := explains progress (starts progress stands)
  cases isRead : read progress with
  | error fault =>
      rw [isRead] at explained
      exact explained
  | ok read =>
      rw [isRead] at explained
      exact ends read.1 read.2 explained

section Rules

variable {before : Progress → Prop} {after : β → Progress → Prop}

theorem Explains.bind {middle : α → Progress → Prop} {read : Reading α} {next : α → Reading β}
    (first : Explains text before read middle)
    (rest : ∀ result, Explains text (middle result) (next result) after) :
    Explains text before (read >>= next) after := by
  intro progress stands
  have explained := first progress stands
  simp only [Bind.bind, StateT.bind]
  cases isRead : read progress with
  | error fault =>
      rw [isRead] at explained
      exact explained
  | ok read =>
      rw [isRead] at explained
      exact rest read.1 read.2 explained

theorem explains_ite_bind {γ : Type} {condition : Prop} [Decidable condition]
    {middle : α → Progress → Prop} {first : Reading α} {look : Reading γ} {second : γ → Reading α}
    {next : α → Reading β} (chosen : condition → Explains text before first middle)
    (other : ¬condition → Explains text before (look >>= second) middle)
    (rest : ∀ result, Explains text (middle result) (next result) after) :
    Explains text before
      (if condition then first >>= next else look >>= fun found => second found >>= next) after := by
  split
  next holds => exact (chosen holds).bind rest
  next fails =>
    rw [← bind_assoc]
    exact (other fails).bind rest

theorem explains_pure (result : β) (stands : ∀ progress, before progress → after result progress) :
    Explains text before (pure result) after := stands

theorem explains_throw {fault : Fault} (reason : HasReason text fault) :
    Explains text before (throw fault : Reading β) after := fun _ _ => reason

theorem explains_refuse : Explains text before (refuse : Reading β) after :=
  explains_throw .malformed

theorem explains_refuse_bind {next : α → Reading β} :
    Explains text before (refuse >>= next) after := by
  have fails : Explains text before (refuse : Reading α) fun _ _ => False := explains_refuse
  exact fails.bind fun _ _ => False.elim

theorem explains_get_bind {next : Progress → Reading β}
    (rest : ∀ progress, before progress → Explains text before (next progress) after) :
    Explains text before (get >>= next) after :=
  fun progress stands => rest progress stands progress stands

theorem explains_modify {change : Progress → Progress} {after : Unit → Progress → Prop}
    (stands : ∀ progress, before progress → after () (change progress)) :
    Explains text before (modify change : Reading Unit) after := stands

theorem Explains.of_reached {fact : Prop} {read : Reading β}
    (reached : ∀ progress, before progress → fact)
    (explains : fact → Explains text before read after) : Explains text before read after :=
  fun progress stands => explains (reached progress stands) progress stands

theorem Explains.of_fact {fact : Prop} {read : Reading β}
    (explains : fact → Explains text before read after) :
    Explains text (fun progress => fact ∧ before progress) read after :=
  fun progress stands => explains stands.1 progress stands.2

end Rules

/-! ### Taking characters -/

section Taking

variable {taken : List Char}

def Keeps (text taken : List Char) (read : Reading α) : Prop :=
  Explains text (Progress.IsAfter text taken) read fun _ => Progress.IsAfter text []

theorem Keeps.after {read : Reading α} (keeps : Keeps text [] read) : Keeps text taken read :=
  keeps.weaken (fun _ => Progress.IsAfter.atRest) fun _ _ => id

theorem Explains.keeps {read : Reading α} {after : α → List Char}
    (explains : Explains text (Progress.IsAfter text taken) read
      fun result => Progress.IsAfter text (after result)) : Keeps text taken read :=
  explains.weaken (fun _ => id) fun _ _ => Progress.IsAfter.atRest

theorem keeps_pure (result : α) : Keeps text taken (pure result) :=
  explains_pure result fun _ => Progress.IsAfter.atRest

theorem keeps_refuse : Keeps text taken (refuse : Reading α) := explains_refuse

theorem keeps_set {progress : Progress} (isAtRest : progress.IsAfter text []) :
    Keeps text taken (set progress : Reading Unit) :=
  fun _ _ => isAtRest

theorem keeps_modify {change : Progress → Progress}
    (stands : ∀ progress, progress.IsAfter text taken → (change progress).IsAfter text []) :
    Keeps text taken (modify change : Reading Unit) :=
  explains_modify stands

theorem explains_next : Explains text (Progress.IsAfter text taken) next
    fun token progress => progress.reader.next = token ∧ progress.IsAfter text taken :=
  fun _ isAfter => ⟨rfl, isAfter⟩

theorem explains_look : Explains text (Progress.IsAfter text taken) next
    fun _ => Progress.IsAfter text taken :=
  fun _ => id

theorem explains_size : Explains text (Progress.IsAfter text taken) size
    fun _ => Progress.IsAfter text taken :=
  fun _ => id

theorem explains_takeNext (token : Option Token) :
    Explains text (fun progress => progress.reader.next = token ∧ progress.IsAfter text taken) take
      fun result progress => result = token ∧ progress.IsAfter text (taken ++ taking token) := by
  rintro progress ⟨rfl, isAfter⟩
  cases reads : Reader.ofChars progress.reader.rest with
  | ok reader =>
      rw [take_eq_ok reads]
      refine ⟨rfl, ?_, isAfter.ascii, isAfter.unicode⟩
      have sofar := isAfter.reads
      rwa [Reader.chars, ← Reader.chars_of_ofChars reads, ← List.append_assoc] at sofar
  | error fault =>
      have fails : take progress = .error fault := by
        simp only [take, bind, StateT.bind, get, getThe, MonadStateOf.get, StateT.get, pure,
          Except.pure, Except.bind, reads, liftM, monadLift, MonadLift.monadLift, StateT.lift]
      rw [fails]
      exact Reader.malformed_of_ofChars reads ▸ .malformed

theorem explains_take : Explains text (Progress.IsAfter text taken) take
    fun token => Progress.IsAfter text (taken ++ taking token) := by
  intro progress isAfter
  have explains : Explains text
      (fun before => before.reader.next = progress.reader.next ∧ before.IsAfter text taken) take
      fun token => Progress.IsAfter text (taken ++ taking token) :=
    (explains_takeNext _).weaken (fun _ => id) fun _ _ stands => stands.1 ▸ stands.2
  exact explains progress ⟨rfl, isAfter⟩

theorem keeps_take : Keeps text taken take := Explains.keeps explains_take

theorem explains_skip (char : Char) : Explains text (Progress.IsAfter text taken) (skip char)
    fun found => Progress.IsAfter text (if found then taken ++ [char] else taken) := by
  refine explains_next.bind fun token => ?_
  split
  next isNext =>
    refine (explains_takeNext token).bind fun _ => explains_pure true fun progress stands => ?_
    have isAfter := stands.2
    rwa [isNext] at isAfter
  · exact explains_pure false fun _ stands => stands.2

theorem explains_ifSkip {char : Char} {yes no : Reading β} {after : β → Progress → Prop}
    (found : Explains text (Progress.IsAfter text (taken ++ [char])) yes after)
    (missed : Explains text (Progress.IsAfter text taken) no after) :
    Explains text (Progress.IsAfter text taken) (do if ← skip char then yes else no) after := by
  refine (explains_skip char).bind fun isFound => ?_
  cases isFound with
  | true => exact found
  | false => exact missed

theorem explains_unlessSkip {char : Char} {yes no : Reading β} {after : β → Progress → Prop}
    (missed : Explains text (Progress.IsAfter text taken) no after)
    (found : Explains text (Progress.IsAfter text (taken ++ [char])) yes after) :
    Explains text (Progress.IsAfter text taken) (do if !(← skip char) then no else yes) after := by
  refine (explains_skip char).bind fun isFound => ?_
  cases isFound with
  | true => exact found
  | false => exact missed

theorem keeps_skip (char : Char) : Keeps text taken (skip char) := Explains.keeps (explains_skip char)

theorem explains_takeWhileFuel (keep : Char → Bool) (fuel : Nat) :
    Explains text (Progress.IsAfter text taken) (takeWhileFuel keep fuel)
      fun chars progress => chars.all keep = true ∧ progress.IsAfter text (taken ++ chars) := by
  have stops (taken : List Char) : Explains text (Progress.IsAfter text taken)
      (pure [] : Reading (List Char))
      fun chars progress => chars.all keep = true ∧ progress.IsAfter text (taken ++ chars) := by
    refine explains_pure _ fun progress isAfter => ⟨rfl, ?_⟩
    rwa [List.append_nil]
  induction fuel generalizing taken with
  | zero => exact stops taken
  | succ fuel ih =>
      refine explains_next.bind fun token => ?_
      split
      next char =>
        split
        next isKept =>
          refine (explains_takeNext (some (.char char))).bind fun _ => ?_
          refine (Explains.of_fact fun _ => ih).bind fun chars => ?_
          refine explains_pure _ fun progress stands => ⟨?_, ?_⟩
          · rw [List.all_cons, isKept, stands.1, Bool.and_self]
          · simpa [taking, Token.chars] using stands.2
        · exact (stops taken).weaken (fun _ => And.right) fun _ _ => id
      · exact (stops taken).weaken (fun _ => And.right) fun _ _ => id

theorem explains_takeWhile (keep : Char → Bool) :
    Explains text (Progress.IsAfter text taken) (takeWhile keep)
      fun chars progress => chars.all keep = true ∧ progress.IsAfter text (taken ++ chars) :=
  explains_size.bind fun size => explains_takeWhileFuel keep size

theorem keeps_takeUpTo (limit : Nat) (keep : Char → Bool) :
    Keeps text taken (takeUpTo limit keep) :=
  (explains_takeWhileFuel keep limit).weaken (fun _ => id) fun _ _ stands => stands.2.atRest

theorem keeps_takeUntilFuel (stop : Char) (fuel : Nat) :
    Keeps text taken (takeUntilFuel stop fuel) := by
  induction fuel generalizing taken with
  | zero => exact keeps_refuse
  | succ fuel ih =>
      refine keeps_take.bind fun token => ?_
      split
      · exact keeps_refuse
      · split
        · exact keeps_pure []
        · exact ih.bind fun _ => keeps_pure _

theorem keeps_takeName (stop : Char) : Keeps text taken (takeName stop) := by
  refine explains_size.bind fun size => (keeps_takeUntilFuel stop size).bind fun chars => ?_
  split
  · exact keeps_refuse
  · exact keeps_pure _

end Taking

end Reading

end Pattern

end ConversionTracking
