import ConversionTracking.Text.Parts
import ConversionTracking.Unicode.Case

/-!
Text filters of the database: `%` stands for any run of characters, `_` for any one character, and a
backslash makes the next character stand for itself. ASCII letters match in either case. Filters and
texts end for it at their first NUL.
-/

namespace ConversionTracking

namespace Like

inductive Part where
  | anyRun
  | anyOne
  | char (value : Char)
deriving DecidableEq, Repr

def parse? : List Char → Option (List Part)
  | [] => some []
  | ['\\'] => none
  | '\\' :: char :: rest => (parse? rest).map (.char char :: ·)
  | char :: rest =>
      (parse? rest).map
        ((if char = '%' then .anyRun else if char = '_' then .anyOne else .char char) :: ·)

def sameLetter (left right : Char) : Bool :=
  Unicode.asciiLowerCode left.toNat == Unicode.asciiLowerCode right.toNat

def accepts : List Part → List Char → Bool
  | [], text => text.isEmpty
  | .anyRun :: parts, text => (suffixes text).any (accepts parts)
  | .anyOne :: parts, text =>
      match text with
      | [] => false
      | _ :: rest => accepts parts rest
  | .char value :: parts, text =>
      match text with
      | [] => false
      | first :: rest => sameLetter value first && accepts parts rest

def escape (text : List Char) : List Char :=
  text.flatMap fun char =>
    if char = '\\' ∨ char = '%' ∨ char = '_' then ['\\', char] else [char]

def containing (needle : String) : List Char := '%' :: escape needle.toList ++ ['%']

/-- The last two code points of the first plane are no characters and read as the replacement
character. -/
def readChar (char : Char) : Char := if 0xFFFE ≤ char.toNat ∧ char.toNat ≤ 0xFFFF then '\uFFFD' else char

def readText (text : List Char) : List Char := (text.takeWhile (· != '\x00')).map readChar

def longestFilter : Nat := 50000

def isTooLong (filter : List Char) : Bool := longestFilter < (String.ofList filter).utf8ByteSize

end Like

def likeMatches (filter text : List Char) : Bool :=
  match Like.parse? (Like.readText filter) with
  | some parts => Like.accepts parts (Like.readText text)
  | none => false

end ConversionTracking
