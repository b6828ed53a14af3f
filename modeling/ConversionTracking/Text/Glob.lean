import ConversionTracking.Text.Parts

/-!
Patterns for whole texts in which a star stands for any run of characters and every other character
for itself.
-/

namespace ConversionTracking

namespace Glob

def accepts : List Char → List Char → Bool
  | [], text => text.isEmpty
  | '*' :: pattern, text => (suffixes text).any (accepts pattern)
  | char :: pattern, text =>
      match text with
      | [] => false
      | first :: rest => char == first && accepts pattern rest

end Glob

def globMatches (pattern : String) (text : Option String) : Bool :=
  match text with
  | none => false
  | some text => Glob.accepts pattern.toList text.toList

end ConversionTracking
