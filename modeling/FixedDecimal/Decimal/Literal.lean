import FixedDecimal.Decimal.Basic
import FixedDecimal.Error
import FixedDecimal.Text.Blank

/-! Decimal literals: blanks around one optional sign and ASCII digits with at most one point
before, between or after them. Every fractional digit written counts for the precision. -/
namespace FixedDecimal.Decimal

def splitSign : List Char → Bool × List Char
  | '-' :: rest => (true, rest)
  | '+' :: rest => (false, rest)
  | cs => (false, cs)

def splitPoint (cs : List Char) : List Char × List Char :=
  (cs.takeWhile (· != '.'), (cs.dropWhile (· != '.')).drop 1)

def ofParts? (negative : Bool) (whole fraction : List Char) : Option Decimal :=
  if whole.isEmpty && fraction.isEmpty then none
  else if Text.allDigits whole && Text.allDigits fraction && fraction.length < UInt32.size then
    let n : Int := Text.ofDigits (whole ++ fraction)
    some ⟨if negative then -n else n, UInt32.ofNat fraction.length⟩
  else none

def ofChars? (cs : List Char) : Option Decimal :=
  let (negative, body) := splitSign (Text.trim cs)
  let (whole, fraction) := splitPoint body
  ofParts? negative whole fraction

/-- Reads a decimal literal; a text that is none is told as it was given. -/
def read (s : String) : Except Error Decimal :=
  match ofChars? s.toList with
  | some x => .ok x
  | none => .error (.invalidDecimal s)

end FixedDecimal.Decimal
