import FixedDecimal.Rounding.Basic

/-! Double-precision binary numbers as 64 bits. Every finite one is a whole number of units of
`2 ^ -1074`, so values, products and quotients are computed exactly and rounded once, to nearest
with ties to the even significand. -/
namespace FixedDecimal

/-- A sign bit, eleven exponent bits and fifty-two fraction bits, from the top. -/
structure Binary64 where
  bits : UInt64
deriving DecidableEq

namespace Binary64

def isNegative (x : Binary64) : Bool := Nat.pow 2 63 ≤ x.bits.toNat
def exponentField (x : Binary64) : Nat := x.bits.toNat / Nat.pow 2 52 % Nat.pow 2 11
def fractionField (x : Binary64) : Nat := x.bits.toNat % Nat.pow 2 52

def isFinite (x : Binary64) : Bool := x.exponentField < 2047
def isNaN (x : Binary64) : Bool := !x.isFinite && x.fractionField != 0

def significand (x : Binary64) : Nat :=
  if x.exponentField = 0 then x.fractionField else Nat.pow 2 52 + x.fractionField

/-- The magnitude of a finite number, counted in units of `2 ^ -1074`. -/
def units (x : Binary64) : Nat := x.significand * Nat.pow 2 (x.exponentField - 1)

def unitsInOne : Nat := Nat.pow 2 1074

def infinityBits : Nat := 2047 * Nat.pow 2 52

/-- The bits of the non-negative double nearest to `num / den`; what is too large becomes
infinite. The shift is the number of low bits that a significand of fifty-three bits leaves out,
and a significand that rounds up to the next power of two carries into the exponent by itself. -/
def nearestBits (num den : Nat) : Nat :=
  let shift := (num * unitsInOne / den).log2 - 52
  let rounded := Rounding.halfEven.divNat (num * unitsInOne) (den * Nat.pow 2 shift)
  min infinityBits (shift * Nat.pow 2 52 + rounded)

def nearest (negative : Bool) (num den : Nat) : Binary64 :=
  ⟨UInt64.ofNat (nearestBits num den + if negative then Nat.pow 2 63 else 0)⟩

def neg (x : Binary64) : Binary64 := ⟨x.bits ^^^ 0x8000000000000000⟩

def mulMagnitude (x y : Binary64) : Binary64 :=
  nearest false (x.units * y.units) (unitsInOne * unitsInOne)

def divMagnitude (x y : Binary64) : Binary64 := nearest false x.units y.units

end Binary64

end FixedDecimal
