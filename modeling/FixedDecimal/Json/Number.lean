import FixedDecimal.Binary64.Basic
import FixedDecimal.Text.Digits

/-! JSON numbers. Integers of 64 bits are exact. Every other number is a double, made from as many
leading digits as 64 bits hold and one multiplication or division by a power of ten. -/
namespace FixedDecimal.Json

structure NumberText where
  negative : Bool
  whole : List Char
  fraction : Option (List Char)
  /-- Whether the exponent is negative, and its digits. -/
  exponent : Option (Bool × List Char)
deriving DecidableEq

namespace NumberText

def run? (cs : List Char) : Option (List Char × List Char) :=
  match cs.takeWhile Char.isDigit with
  | [] => none
  | run => some (run, cs.dropWhile Char.isDigit)

def readWhole? (cs : List Char) : Option (List Char × List Char) :=
  match run? cs with
  | some ('0' :: _ :: _, _) => none
  | r => r

def readFraction? : List Char → Option (Option (List Char) × List Char)
  | '.' :: rest => do
    let (run, after) ← run? rest
    return (some run, after)
  | cs => some (none, cs)

def readExponent? : List Char → Option (Option (Bool × List Char) × List Char)
  | c :: rest =>
    if c = 'e' ∨ c = 'E' then
      let (negative, unsigned) := match rest with
        | '-' :: after => (true, after)
        | '+' :: after => (false, after)
        | _ => (false, rest)
      do
        let (run, after) ← run? unsigned
        return (some (negative, run), after)
    else some (none, c :: rest)
  | [] => some (none, [])

def read? (cs : List Char) : Option (NumberText × List Char) := do
  let (negative, unsigned) := match cs with
    | '-' :: rest => (true, rest)
    | _ => (false, cs)
  let (whole, afterWhole) ← readWhole? unsigned
  let (fraction, afterFraction) ← readFraction? afterWhole
  let (exponent, rest) ← readExponent? afterFraction
  return (⟨negative, whole, fraction, exponent⟩, rest)

/-- Appends digits to a number for as long as it stays below `2 ^ 64`; also tells how many digits
it took. -/
def absorb (n : Nat) : List Char → Nat × Nat
  | [] => (n, 0)
  | c :: rest =>
    let next := n * 10 + (c.toNat - '0'.toNat)
    if next < UInt64.size then
      let (result, count) := absorb next rest
      (result, count + 1)
    else (n, 0)

end NumberText

inductive Number where
  | integer (n : Int)
  | double (x : Binary64)
deriving DecidableEq

namespace Number

def powerOfTen (n : Nat) : Binary64 := Binary64.nearest false (Nat.pow 10 n) 1

/-- Divides by `10 ^ n`, in several steps where that power is no double. -/
def shrink (x : Binary64) (n : Nat) : Binary64 :=
  if n ≤ 308 then x.divMagnitude (powerOfTen n)
  else if x.units = 0 then x
  else shrink (x.divMagnitude (powerOfTen 308)) (n - 308)
termination_by n
decreasing_by omega

def grow? (x : Binary64) (n : Nat) : Option Binary64 :=
  if n ≤ 308 then
    let product := x.mulMagnitude (powerOfTen n)
    if product.isFinite then some product else none
  else if x.units = 0 then some x
  else none

def ofParts? (negative : Bool) (significand : Nat) (exponent : Int) : Option Binary64 := do
  let x := Binary64.nearest false significand 1
  let magnitude ← if 0 ≤ exponent then grow? x exponent.toNat else some (shrink x (-exponent).toNat)
  return if negative then magnitude.neg else magnitude

/-- The value of a written number. A minus sign makes a double of zero and of what 64 bits with a
sign do not hold. -/
def ofText? (t : NumberText) : Option Number :=
  let (n, taken) := NumberText.absorb 0 t.whole
  let left := t.whole.length - taken
  if left = 0 ∧ t.fraction = none ∧ t.exponent = none then
    if !t.negative then some (.integer n)
    else if 0 < n ∧ n ≤ Nat.pow 2 63 then some (.integer (-n))
    else some (.double (Binary64.nearest true n 1))
  else
    let (significand, places) := NumberText.absorb n (t.fraction.getD [])
    let shift : Int := match t.exponent with
      | none => 0
      | some (true, ds) => -(Text.ofDigits ds : Int)
      | some (false, ds) => Text.ofDigits ds
    (ofParts? t.negative significand (left - places + shift)).map .double

end Number

end FixedDecimal.Json
