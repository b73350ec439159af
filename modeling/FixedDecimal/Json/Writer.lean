import FixedDecimal.Amount

/-! JSON texts of the library's values. Integers of any size are written as strings, and what is
written needs no escapes. -/
namespace FixedDecimal

def Decimal.magnitudeText (x : Decimal) : String := String.ofList (Text.integer x.magnitude)

namespace Json

/-- A string whose characters need no escape. -/
def writeString (s : String) : String := "\"" ++ s ++ "\""

def writeObject (entries : List (String × String)) : String :=
  "\x7b" ++ ",".intercalate (entries.map fun (name, value) => writeString name ++ ":" ++ value) ++
    "\x7d"

def writeDecimal (x : Decimal) : String :=
  writeObject [("magnitude", writeString x.magnitudeText), ("precision", toString x.precision)]

def writeEvaluation (x : Decimal) : String :=
  writeObject [("magnitude", writeString x.magnitudeText), ("precision", toString x.precision),
    ("decimal", writeString x.text)]

def writeAmount {s : Schema} (a : Amount s) : String := writeString a.magnitudeText

def writeAmounts {s : Schema} (amounts : List (Amount s)) : String :=
  "[" ++ ",".intercalate (amounts.map writeAmount) ++ "]"

def writeOptionalAmount {s : Schema} : Option (Amount s) → String
  | none => "null"
  | some a => writeAmount a

end Json

end FixedDecimal
