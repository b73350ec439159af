import FixedDecimal.Decimal.Basic
import FixedDecimal.Json.Value

/-! Decimals in JSON: an object of a magnitude, as an integer text, and a precision. An array of
the two is read as well. -/
namespace FixedDecimal.Json

def Reader.magnitude : Reader Int := do
  match Text.groupedInteger (← Reader.string "a string") with
  | .ok n => return n
  | .error fault => Reader.reject fault.message

def Reader.precision : Reader Precision := do
  match ← Reader.head with
  | .number (.integer n) =>
    if 0 ≤ n ∧ n < UInt32.size then return UInt32.ofNat n.toNat
    else Reader.reject s!"invalid value: integer `{n}`, expected u32"
  | other => other.mismatch "u32"

structure DecimalFields where
  magnitude : Option Int
  precision : Option Precision

namespace DecimalFields

/-- Reads an entry. A known key may come once; what stands at an unknown key is skipped. -/
def readEntry (found : DecimalFields) : Reader DecimalFields := do
  match String.ofList (← Reader.key) with
  | "magnitude" =>
    if found.magnitude.isSome then Reader.reject "duplicate field `magnitude`"
    else
      Reader.expect ':'
      return { found with magnitude := some (← Reader.magnitude) }
  | "precision" =>
    if found.precision.isSome then Reader.reject "duplicate field `precision`"
    else
      Reader.expect ':'
      return { found with precision := some (← Reader.precision) }
  | _ =>
    Reader.expect ':'
    Reader.skip
    return found

def complete : DecimalFields → Reader Decimal
  | ⟨none, _⟩ => Reader.reject "missing field `magnitude`"
  | ⟨_, none⟩ => Reader.reject "missing field `precision`"
  | ⟨some magnitude, some precision⟩ => return ⟨magnitude, precision⟩

end DecimalFields

def decimalShape : String := "struct HeadlessDecimal"

def Reader.decimalElements : Reader Decimal := do
  if ← Reader.takes ']' then
    Reader.reject s!"invalid length 0, expected {decimalShape} with 2 elements"
  else
    let magnitude ← Reader.magnitude
    if ← Reader.takes ']' then
      Reader.reject s!"invalid length 1, expected {decimalShape} with 2 elements"
    else
      Reader.expect ','
      let precision ← Reader.precision
      Reader.expect ']'
      return ⟨magnitude, precision⟩

def Reader.decimal : Reader Decimal := do
  match ← Reader.head with
  | .array => Reader.decimalElements
  | .object => (← Reader.items '\x7d' DecimalFields.readEntry ⟨none, none⟩).complete
  | other => other.mismatch decimalShape

def readDecimal (text : String) : Except Failure Decimal := Reader.document Reader.decimal text

end FixedDecimal.Json
