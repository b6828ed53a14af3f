import ConversionTracking.Value.Text

/-!
Goals as messages show them.
-/

namespace ConversionTracking

def goalLabel (id name goalType : Value) : String :=
  "<Goal id=" ++ id.plainText ++ " name=" ++ name.literal ++ " type=" ++ goalType.plainText ++ ">"

end ConversionTracking
