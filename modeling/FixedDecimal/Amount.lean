import FixedDecimal.Decimal.Literal
import FixedDecimal.Decimal.Text
import FixedDecimal.Decimal96
import FixedDecimal.Schema
import FixedDecimal.Text.Number

/-! Amounts in a schema. The schema fixes the unit and the precision, so an amount is its integer
magnitude, and amounts of different schemas do not mix. -/
namespace FixedDecimal

structure Amount (s : Schema) where
  magnitude : Int
deriving DecidableEq

namespace Amount

variable {s t : Schema}

def zero : Amount s := ⟨0⟩

instance : Inhabited (Amount s) := ⟨zero⟩

def isZero (a : Amount s) : Bool := a.magnitude == 0

def toDecimal (a : Amount s) : Decimal := ⟨a.magnitude, s.precision⟩

instance : Ord (Amount s) := ⟨fun a b => compare a.magnitude b.magnitude⟩

instance : Max (Amount s) := ⟨fun a b => if a.magnitude ≤ b.magnitude then b else a⟩

def ofDecimal (x : Decimal) (mode : Rounding) : Amount s :=
  ⟨(x.rescaleWith s.precision mode).magnitude⟩

def adjust (a : Amount s) (t : Schema) (mode : Rounding) : Amount t := ofDecimal a.toDecimal mode

/-- Reads a decimal literal, which must not write more fractional digits than the schema has. -/
def read (s : Schema) (literal : String) : Except Error (Amount s) := do
  let x ← Decimal.read literal
  if s.precision < x.precision then
    .error (.excessPrecision (String.ofList (Text.trim literal.toList)) x.precision s.name
      s.precision)
  else .ok (ofDecimal x .towardZero)

def readMagnitude (s : Schema) (text : String) : Except Error (Amount s) :=
  match Text.groupedInteger (Text.trim text.toList) with
  | .ok n => .ok ⟨n⟩
  | .error _ => .error (.invalidDecimal text)

/-- The number that the shortest text of a double writes, with halves rounded away from zero. -/
def ofBinary64 (s : Schema) (x : Binary64) : Except Error (Amount s) :=
  if x.isFinite then do
    let value ← Decimal.read (String.ofList x.plainText)
    return ofDecimal value .halfAwayFromZero
  else .error (.nonFiniteFloat x)

/-- Digits that a 96-bit decimal has beyond those of the schema are cut off. -/
def ofDecimal96 (x : Decimal96) : Amount s := ofDecimal x.toDecimal .towardZero

/-- Digits beyond the twenty-eighth are cut off; what is left must fit. -/
def toDecimal96 (a : Amount s) : Except Error Decimal96 :=
  let x := a.toDecimal.rescale (min s.precision Decimal96.maxScale)
  if -Nat.pow 2 127 ≤ x.magnitude ∧ x.magnitude < Nat.pow 2 127 then
    Decimal96.make x.magnitude x.precision
  else .error (.conversion s!"{x.magnitude} does not fit a Decimal")

def text (a : Amount s) : String := a.toDecimal.text

def magnitudeText (a : Amount s) : String := String.ofList (Text.integer a.magnitude)

end Amount

end FixedDecimal
