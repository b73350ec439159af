import FixedDecimal.Binary64.Basic
import FixedDecimal.Text.Digits

/-! The shortest decimal that reads back as a given double. Decimal grids are tried from coarse to
fine; on each, only the two neighbours of the double can read back, and the nearer one is taken. -/
namespace FixedDecimal.Binary64

structure Scientific where
  coefficient : Nat
  exponent : Int
deriving DecidableEq

def Scientific.nearest (negative : Bool) (s : Scientific) : Binary64 :=
  Binary64.nearest negative (s.coefficient * Nat.pow 10 s.exponent.toNat)
    (Nat.pow 10 (-s.exponent).toNat)

inductive Tie where
  | away
  | toEven
deriving DecidableEq

def Tie.takesLower (tie : Tie) (low : Nat) : Bool :=
  match tie with
  | .away => false
  | .toEven => low % 2 == 0

def readsBack (x : Binary64) (s : Scientific) : Bool := s.nearest x.isNegative == x

def onGrid (tie : Tie) (x : Binary64) (exponent : Int) : Option Scientific :=
  let num := x.units * Nat.pow 10 (-exponent).toNat
  let den := unitsInOne * Nat.pow 10 exponent.toNat
  let low := num / den
  let rest := num % den
  let lower : Scientific := ⟨low, exponent⟩
  let upper : Scientific := ⟨low + 1, exponent⟩
  let nearer := 2 * rest < den || (2 * rest == den && tie.takesLower low)
  if readsBack x lower && (nearer || !readsBack x upper) then some lower
  else if rest != 0 && readsBack x upper then some upper
  else none

/-- An exponent `e` with `x < 10 ^ e`, and with `10 ^ (e - 1) ≤ x` unless `x` is zero. -/
def decimalExponent (x : Binary64) : Int :=
  (Text.digits (x.units * Nat.pow 10 340 / unitsInOne)).length - 340

/-- A unit is `5 ^ 1074 / 10 ^ 1074`. -/
def exact (x : Binary64) : Scientific := ⟨x.units * Nat.pow 5 1074, -1074⟩

/-- The shortest decimal that reads back as the magnitude of `x`; seventeen digits always suffice,
and the exact value closes the list. -/
def shortest (tie : Tie) (x : Binary64) : Scientific :=
  ((List.range 18).findSome? fun (count : Nat) =>
    onGrid tie x (x.decimalExponent - count)).getD x.exact

end FixedDecimal.Binary64
