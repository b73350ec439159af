import FixedDecimal.Binary64.Literal
import FixedDecimal.Text.Positional

/-! The text of a decimal and the double that this text reads as. The text shows the number alone:
decimals that are equal as numbers have one text. -/
namespace FixedDecimal.Decimal

def chars (x : Decimal) : List Char :=
  (if x.magnitude < 0 then ['-'] else []) ++
    Text.positional x.magnitude.natAbs x.precision.toNat

def text (x : Decimal) : String := String.ofList x.chars

def toBinary64 (x : Decimal) : Binary64 := (Binary64.ofChars? x.chars).getD .nan

end FixedDecimal.Decimal
