/-! Decimal digits: the digits of a natural number and the number that digits write. Reading a
number's own digits gives the number back, and only the first digit of a text can be spared. -/
namespace FixedDecimal.Text

def ofDigits (cs : List Char) : Nat := Nat.ofDigitChars 10 cs 0

def digits (n : Nat) : List Char := Nat.toDigits 10 n

def paddedDigits (width n : Nat) : List Char :=
  List.replicate (width - (digits n).length) '0' ++ digits n

def allDigits (cs : List Char) : Bool := cs.all Char.isDigit

def integer (n : Int) : List Char :=
  if n < 0 then '-' :: digits n.natAbs else digits n.natAbs

def dropFinalZeros (cs : List Char) : List Char := (cs.reverse.dropWhile (· == '0')).reverse

theorem ofDigits_nil : ofDigits [] = 0 := rfl

theorem ofDigits_digits (n : Nat) : ofDigits (digits n) = n := Nat.ofDigitChars_ten_toDigits

theorem ofDigits_append (cs ds : List Char) :
    ofDigits (cs ++ ds) = Nat.pow 10 ds.length * ofDigits cs + ofDigits ds := by
  simp only [ofDigits, Nat.ofDigitChars_append]
  exact Nat.ofDigitChars_eq_ofDigitChars_zero

theorem ofDigits_zeros (n : Nat) : ofDigits (List.replicate n '0') = 0 := by
  simp [ofDigits, Nat.ofDigitChars_replicate_zero]

theorem digits_ne_nil (n : Nat) : digits n ≠ [] := Nat.toDigits_ne_nil

theorem isDigit_of_mem_digits {n : Nat} {c : Char} (h : c ∈ digits n) : c.isDigit = true :=
  Nat.isDigit_of_mem_toDigits (by decide) (by decide) h

theorem allDigits_digits (n : Nat) : allDigits (digits n) = true :=
  List.all_eq_true.2 fun _ h => isDigit_of_mem_digits h

theorem allDigits_append (cs ds : List Char) :
    allDigits (cs ++ ds) = (allDigits cs && allDigits ds) := List.all_append

theorem ofDigits_paddedDigits (width n : Nat) : ofDigits (paddedDigits width n) = n := by
  rw [paddedDigits, ofDigits_append, ofDigits_zeros, ofDigits_digits]
  simp

theorem allDigits_paddedDigits (width n : Nat) : allDigits (paddedDigits width n) = true := by
  rw [paddedDigits, allDigits_append, allDigits_digits, Bool.and_true]
  exact List.all_eq_true.2 fun c h => by rw [List.eq_of_mem_replicate h]; rfl

/-- A number below `10 ^ width` takes up exactly that width. -/
theorem length_paddedDigits {width n : Nat} (hw : 0 < width) (h : n < Nat.pow 10 width) :
    (paddedDigits width n).length = width := by
  have hlen : (digits n).length ≤ width := (Nat.length_toDigits_le_iff (by decide) hw).2 h
  simp [paddedDigits]
  omega

end FixedDecimal.Text
