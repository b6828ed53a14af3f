/-!
Stretches of text: suffixes, occurrences and the pieces between separators.
-/

namespace ConversionTracking

def suffixes {α : Type} : List α → List (List α)
  | [] => [[]]
  | item :: rest => (item :: rest) :: suffixes rest

def occursIn (needle text : List Char) : Bool := (suffixes text).any needle.isPrefixOf

/-- The pieces between the occurrences of a character; one more than there are occurrences. -/
def splitAtChar (separator : Char) : List Char → List (List Char)
  | [] => [[]]
  | char :: rest =>
      if char = separator then [] :: splitAtChar separator rest
      else
        match splitAtChar separator rest with
        | piece :: pieces => (char :: piece) :: pieces
        | [] => [[char]]

def padEnd (width : Nat) (text : String) : String :=
  text ++ String.ofList (List.replicate (width - text.length) ' ')

end ConversionTracking
