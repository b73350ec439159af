import FixedDecimal.Text.Digits

/-! Positional notation with a point: a whole part without leading zeros and a fraction without
final zeros. The point is written only before a fraction. -/
namespace FixedDecimal.Text

def fractionDigits (n places : Nat) : List Char :=
  if places = 0 then [] else dropFinalZeros (paddedDigits places (n % Nat.pow 10 places))

def positional (n places : Nat) : List Char :=
  match fractionDigits n places with
  | [] => digits (n / Nat.pow 10 places)
  | fraction => digits (n / Nat.pow 10 places) ++ '.' :: fraction

def fixedPlaces (n places : Nat) : List Char :=
  if places = 0 then digits n
  else digits (n / Nat.pow 10 places) ++ '.' :: paddedDigits places (n % Nat.pow 10 places)

theorem positional_whole (n : Nat) : positional n 0 = digits n := by
  simp [positional, fractionDigits]

end FixedDecimal.Text
