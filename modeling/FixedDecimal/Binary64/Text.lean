import FixedDecimal.Binary64.Shortest
import FixedDecimal.Text.Positional

/-! Two ways to write a double with its shortest digits. Plain text never has an exponent;
exponent text has one far from one, and always has a point or an exponent. -/
namespace FixedDecimal.Binary64

def signText (x : Binary64) : List Char := if x.isNegative then ['-'] else []

def plainText (x : Binary64) : List Char :=
  if x.isFinite then
    let s := shortest .away x
    x.signText ++
      Text.positional (s.coefficient * Nat.pow 10 s.exponent.toNat) (-s.exponent).toNat
  else if x.isNaN then "NaN".toList
  else x.signText ++ "inf".toList

def exponentMark (n : Int) : List Char :=
  'e' :: (if n < 0 then '-' else '+') :: Text.digits n.natAbs

/-- Positional between `1e-5` and `1e16`, with a point in any case, and with an exponent
elsewhere. -/
def exponentText (x : Binary64) : List Char :=
  if x.isFinite then
    let s := shortest .toEven x
    let digits := Text.digits s.coefficient
    let point : Int := digits.length + s.exponent
    x.signText ++
      if x.units = 0 then "0.0".toList
      else if -5 < point ∧ point ≤ 16 then
        if 0 ≤ s.exponent then
          digits ++ List.replicate s.exponent.toNat '0' ++ ".0".toList
        else Text.positional s.coefficient (-s.exponent).toNat
      else
        let fraction := match digits.drop 1 with
          | [] => []
          | rest => '.' :: rest
        digits.take 1 ++ fraction ++ exponentMark (point - 1)
  else if x.isNaN then "NaN".toList
  else x.signText ++ "inf".toList

end FixedDecimal.Binary64
