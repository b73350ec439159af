import FixedDecimal.Decimal.Literal

/-! Plain decimal texts read as doubles: a sign, and digits with at most one point. Texts with an
exponent and the names of what is not finite are no plain texts. -/
namespace FixedDecimal.Binary64

def nan : Binary64 := ⟨0x7ff8000000000000⟩

/-- The double nearest to the number that a plain text writes; a zero keeps its sign. -/
def ofChars? (cs : List Char) : Option Binary64 :=
  let (negative, body) := Decimal.splitSign cs
  let (whole, fraction) := Decimal.splitPoint body
  if whole.isEmpty && fraction.isEmpty then none
  else if Text.allDigits whole && Text.allDigits fraction then
    some (nearest negative (Text.ofDigits (whole ++ fraction)) (Nat.pow 10 fraction.length))
  else none

end FixedDecimal.Binary64
