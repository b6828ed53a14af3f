import ConversionTracking.Number.Whole
import ConversionTracking.Text.Parts
import ConversionTracking.Text.Quoted

/-!
The arguments of the command that lists goals. Options can be shortened as long as only one is meant.
-/

namespace ConversionTracking

inductive ListOption where
  | help
  | active
  | site
deriving DecidableEq, Repr

namespace ListOption

def spellings : List (String × ListOption) :=
  [("-h", .help), ("--help", .help), ("--active", .active), ("--site", .site)]

def title : ListOption → String
  | .help => "-h/--help"
  | .active => "--active"
  | .site => "--site"

end ListOption

inductive UsageFault where
  | ambiguous (word : String) (spellings : List String)
  | unusedArgument (option : ListOption) (argument : String)
  | missingArgument (option : ListOption)
  | notWhole (option : ListOption) (argument : String)
  | unrecognized (words : List String)
deriving DecidableEq, Repr

def UsageFault.message : UsageFault → String
  | .ambiguous word spellings =>
      "ambiguous option: " ++ word ++ " could match " ++ ", ".intercalate spellings
  | .unusedArgument option argument =>
      "argument " ++ option.title ++ ": ignored explicit argument " ++ quotedText argument
  | .missingArgument option => "argument " ++ option.title ++ ": expected one argument"
  | .notWhole option argument =>
      "argument " ++ option.title ++ ": invalid int value: " ++ quotedText argument
  | .unrecognized words => "unrecognized arguments: " ++ " ".intercalate words

inductive WordKind where
  | separator
  | plain
  | unknownOption
  /-- An option with what is given in the same word: behind an equals sign, or joined to its letter. -/
  | option (option : ListOption) (isJoined : Bool) (argument : Option String)
deriving DecidableEq, Repr

inductive ListCommand where
  | help
  | list (activeOnly : Bool) (siteId : Option Int)
deriving DecidableEq, Repr

namespace ListCommand

def splitEquals (word : List Char) : List Char × Option (List Char) :=
  match word.dropWhile (· != '=') with
  | _ :: argument => (word.takeWhile (· != '='), some argument)
  | [] => (word, none)

def isNegativeNumber : List Char → Bool
  | '-' :: body =>
      let whole := body.takeWhile Unicode.isDecimal
      match body.drop whole.length with
      | [] => !whole.isEmpty
      | '.' :: fraction => !fraction.isEmpty && fraction.all Unicode.isDecimal
      | _ => false
  | _ => false

def expansions (stem : List Char) : List (String × ListOption) :=
  ListOption.spellings.filter fun spelling => stem.isPrefixOf spelling.1.toList

def kindOfOther (word : List Char) : WordKind :=
  if isNegativeNumber word || word.contains ' ' then .plain else .unknownOption

def kindOf (word : String) : Except UsageFault WordKind :=
  match ListOption.spellings.lookup word with
  | some option => .ok (.option option false none)
  | none =>
      let chars := word.toList
      match chars with
      | '-' :: second :: tail =>
          let (stem, argument) := splitEquals chars
          let argument := argument.map String.ofList
          match ListOption.spellings.lookup (String.ofList stem), argument with
          | some option, some argument => .ok (.option option false (some argument))
          | _, _ =>
              if second = '-' then
                match expansions stem with
                | [] => .ok (kindOfOther chars)
                | [(_, option)] => .ok (.option option false argument)
                | several => .error (.ambiguous word (several.map Prod.fst))
              else if second = 'h' then .ok (.option .help true (some (String.ofList tail)))
              else .ok (kindOfOther chars)
      | _ => .ok .plain

def kinds : List String → Except UsageFault (List (String × WordKind))
  | [] => .ok []
  | word :: rest =>
      if word = "--" then .ok ((word, .separator) :: rest.map fun word => (word, .plain))
      else do
        let kind ← kindOf word
        return (word, kind) :: (← kinds rest)

structure Reading where
  activeOnly : Bool
  siteId : Option Int
  unknown : List String

def readSite (argument : String) : Except UsageFault Int :=
  match WholeText.read argument with
  | .ok site => .ok site
  | .error _ => .error (.notWhole .site argument)

/-- What is joined to the short option for help. Letters that ask for help again are read on, and
others are never reached; a hyphen, or an equals sign after a letter, starts an argument. -/
def checkHelp : List Char → Except UsageFault Unit
  | '-' :: rest => .error (.unusedArgument .help (String.ofList ('-' :: rest)))
  | 'h' :: '=' :: argument => .error (.unusedArgument .help (String.ofList argument))
  | 'h' :: rest => checkHelp rest
  | _ => .ok ()

def read (reading : Reading) : List (String × WordKind) → Except UsageFault ListCommand
  | [] =>
      if reading.unknown.isEmpty then .ok (.list reading.activeOnly reading.siteId)
      else .error (.unrecognized reading.unknown)
  | (_, .option .help isJoined argument) :: _ =>
      match argument with
      | none => .ok .help
      | some argument =>
          if isJoined then do
            checkHelp argument.toList
            return .help
          else .error (.unusedArgument .help argument)
  | (_, .option .active _ argument) :: rest =>
      match argument with
      | none => read { reading with activeOnly := true } rest
      | some argument => .error (.unusedArgument .active argument)
  | (_, .option .site _ (some argument)) :: rest => do
      let site ← readSite argument
      read { reading with siteId := some site } rest
  | (_, .option .site _ none) :: (argument, .plain) :: rest => do
      let site ← readSite argument
      read { reading with siteId := some site } rest
  | (_, .option .site _ none) :: _ => .error (.missingArgument .site)
  | (word, _) :: rest => read { reading with unknown := reading.unknown ++ [word] } rest

def ofArguments (arguments : List String) : Except UsageFault ListCommand := do
  read ⟨false, none, []⟩ (← kinds arguments)

end ListCommand

end ConversionTracking
