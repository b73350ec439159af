import FixedDecimal.Decimal.Text
import FixedDecimal.Proofs.Decimal.Literal
import FixedDecimal.Proofs.Decimal.Value
import FixedDecimal.Proofs.Text.Digits

/-! Numerals in the plain form, by their parts. A numeral reads as one decimal and is the text of it
again, unless it is `-0`; and the text of every decimal is such a numeral. -/
namespace FixedDecimal

structure Numeral where
  negative : Bool
  whole : List Char
  fraction : List Char
  whole_ne_nil : whole ≠ []
  whole_digits : Text.allDigits whole = true
  no_leading_zero : whole.head? = some '0' → whole = ['0']
  fraction_digits : Text.allDigits fraction = true
  no_final_zero : fraction.getLast? ≠ some '0'

namespace Numeral

def unsigned (n : Numeral) : List Char :=
  match n.fraction with
  | [] => n.whole
  | fraction => n.whole ++ '.' :: fraction

def chars (n : Numeral) : List Char := (if n.negative then ['-'] else []) ++ n.unsigned

def text (n : Numeral) : String := String.ofList n.chars

def number (n : Numeral) : ℕ := Text.ofDigits (n.whole ++ n.fraction)

def decimal (n : Numeral) : Decimal :=
  ⟨if n.negative then -(n.number : ℤ) else n.number, UInt32.ofNat n.fraction.length⟩

variable (n : Numeral)

theorem natAbs_decimal : n.decimal.magnitude.natAbs = n.number := by
  cases h : n.negative <;> simp [decimal, h]

theorem precision_decimal (hlen : n.fraction.length < 2 ^ 32) :
    n.decimal.precision.toNat = n.fraction.length :=
  UInt32.toNat_ofNat_of_lt' hlen

/-! ## Reading a numeral -/

def literal : Literal where
  sign := if n.negative then .minus else .absent
  whole := n.whole
  fraction := if n.fraction = [] then none else some n.fraction
  whole_digits := n.whole_digits
  fraction_digits := by
    intro cs hcs
    split at hcs
    · cases hcs
    · exact Option.some.inj hcs ▸ n.fraction_digits
  digits_ne_nil := List.append_ne_nil_of_left_ne_nil n.whole_ne_nil _

theorem getD_fraction_literal : n.literal.fraction.getD [] = n.fraction := by
  by_cases hf : n.fraction = [] <;> simp [literal, hf]

theorem unsigned_literal : n.literal.unsigned = n.unsigned := by
  cases hf : n.fraction <;> simp [Literal.unsigned, literal, unsigned, hf]

theorem chars_literal : n.literal.chars = n.chars := by
  rw [Literal.chars, unsigned_literal, chars]
  cases hn : n.negative <;> simp [literal, hn, LiteralSign.chars]

theorem mem_chars {c : Char} (h : c ∈ n.chars) : c = '-' ∨ c = '.' ∨ c.isDigit = true := by
  rcases List.mem_append.mp h with hsign | hunsigned
  · cases hn : n.negative <;> simp_all
  · exact .inr (n.literal.mem_unsigned (n.unsigned_literal ▸ hunsigned))

theorem digits_literal : n.literal.digits = n.whole ++ n.fraction := by
  rw [Literal.digits, getD_fraction_literal]
  rfl

theorem places_literal : n.literal.places = n.fraction.length := by
  rw [Literal.places, getD_fraction_literal]

theorem magnitude_literal : n.literal.magnitude = n.decimal.magnitude := by
  rw [Literal.magnitude, digits_literal]
  cases hn : n.negative <;> simp [literal, decimal, number, hn]

theorem read_text (hlen : n.fraction.length < 2 ^ 32) : Decimal.read n.text = .ok n.decimal := by
  have hstands : n.literal.StandsIn n.text :=
    ⟨[], [], by simp [text, chars_literal], by simp, by simp⟩
  refine Decimal.read_eq_ok_iff.mpr ⟨n.literal, hstands, n.places_literal ▸ hlen, ?_⟩
  rw [magnitude_literal, places_literal]
  rfl

/-! ## Writing what was read -/

theorem number_eq :
    n.number = 10 ^ n.fraction.length * Text.ofDigits n.whole + Text.ofDigits n.fraction :=
  Text.ofDigits_append n.whole n.fraction

theorem positional_number : Text.positional n.number n.fraction.length = n.unsigned := by
  have hlt := Text.ofDigits_lt n.fraction_digits
  have hwhole : Text.digits (n.number / Nat.pow 10 n.fraction.length) = n.whole := by
    have hdiv : n.number / Nat.pow 10 n.fraction.length = Text.ofDigits n.whole := by
      change n.number / 10 ^ n.fraction.length = _
      rw [number_eq, Nat.mul_add_div (by positivity), Nat.div_eq_of_lt hlt, Nat.add_zero]
    rw [hdiv, Text.digits_ofDigits n.whole_ne_nil n.whole_digits n.no_leading_zero]
  have hfraction : Text.fractionDigits n.number n.fraction.length = n.fraction := by
    rw [number_eq, Text.fractionDigits_ofDigits n.fraction_digits n.no_final_zero]
  rw [Text.positional, hfraction, hwhole]
  rfl

/-- The last digit of a fraction counts. -/
theorem not_ten_dvd_number (h : n.fraction ≠ []) : ¬10 ∣ n.number := by
  obtain ⟨front, c, hf⟩ := (List.eq_nil_or_concat' n.fraction).resolve_left h
  have hc : c.isDigit = true := List.all_eq_true.mp n.fraction_digits c (by simp [hf])
  have hzero : c ≠ '0' := by
    intro h0
    exact n.no_final_zero (by simp [hf, h0])
  have hbound := Text.toNat_of_isDigit hc
  have hne : c.toNat ≠ 48 := fun h => hzero (Char.toNat_inj.mp h)
  rw [number, hf, ← List.append_assoc, Text.ofDigits_concat]
  omega

theorem eq_zero_of_number (h : n.number = 0) : n.whole = ['0'] ∧ n.fraction = [] := by
  have hf : n.fraction = [] := by
    by_contra hf
    exact n.not_ten_dvd_number hf (by simp [h])
  have hread := Text.digits_ofDigits n.whole_ne_nil n.whole_digits n.no_leading_zero
  rw [number, hf, List.append_nil] at h
  rw [h] at hread
  exact ⟨hread.symm, hf⟩

theorem text_decimal (hlen : n.fraction.length < 2 ^ 32) (hzero : n.text ≠ "-0") :
    n.decimal.text = n.text := by
  have hsign : n.decimal.magnitude < 0 ↔ n.negative = true := by
    cases hn : n.negative with
    | false => simp [decimal, hn]
    | true =>
      have hpos : n.number ≠ 0 := by
        intro h0
        obtain ⟨hw, hf⟩ := n.eq_zero_of_number h0
        exact hzero (by simp [text, chars, unsigned, hn, hw, hf])
      simp [decimal, hn]
      omega
  rw [Decimal.text, Decimal.chars, natAbs_decimal, n.precision_decimal hlen, positional_number]
  simp only [hsign]
  rfl

end Numeral

/-! ## The text of a decimal -/

namespace Decimal

def numeral (x : Decimal) : Numeral where
  negative := decide (x.magnitude < 0)
  whole := Text.digits (x.magnitude.natAbs / Nat.pow 10 x.precision.toNat)
  fraction := Text.fractionDigits x.magnitude.natAbs x.precision.toNat
  whole_ne_nil := Text.digits_ne_nil _
  whole_digits := Text.allDigits_digits _
  no_leading_zero := Text.digits_of_head_zero
  fraction_digits := Text.allDigits_fractionDigits _ _
  no_final_zero := Text.getLast?_fractionDigits _ _

theorem unsigned_numeral (x : Decimal) :
    x.numeral.unsigned = Text.positional x.magnitude.natAbs x.precision.toNat := rfl

theorem chars_numeral (x : Decimal) : x.numeral.chars = x.chars := by
  have hsign : x.numeral.negative = true ↔ x.magnitude < 0 := decide_eq_true_iff
  simp only [Numeral.chars, hsign, unsigned_numeral, chars]

theorem text_numeral (x : Decimal) : x.numeral.text = x.text := by
  rw [Numeral.text, chars_numeral, text]

def reduced (x : Decimal) : Decimal := x.numeral.decimal

/-- Zeros at the end of the fraction are all that the numeral leaves out. -/
theorem numeral_filled (x : Decimal) : ∃ k, x.numeral.fraction.length + k = x.precision.toNat ∧
    x.numeral.number * 10 ^ k = x.magnitude.natAbs := by
  obtain ⟨k, hlen, -, hfraction⟩ : ∃ k, x.numeral.fraction.length + k = x.precision.toNat ∧ _ ∧
      10 ^ k * Text.ofDigits x.numeral.fraction = x.magnitude.natAbs % 10 ^ x.precision.toNat :=
    Text.fractionDigits_filled _ _
  have hwhole : Text.ofDigits x.numeral.whole = x.magnitude.natAbs / 10 ^ x.precision.toNat :=
    Text.ofDigits_digits _
  refine ⟨k, hlen, ?_⟩
  calc x.numeral.number * 10 ^ k
      = 10 ^ (x.numeral.fraction.length + k) * Text.ofDigits x.numeral.whole +
          10 ^ k * Text.ofDigits x.numeral.fraction := by rw [Numeral.number_eq]; ring
    _ = 10 ^ x.precision.toNat * (x.magnitude.natAbs / 10 ^ x.precision.toNat) +
          x.magnitude.natAbs % 10 ^ x.precision.toNat := by rw [hwhole, hfraction, hlen]
    _ = x.magnitude.natAbs := Nat.div_add_mod _ _

theorem length_fraction_lt (x : Decimal) : x.numeral.fraction.length < 2 ^ 32 := by
  obtain ⟨k, hk, -⟩ := x.numeral_filled
  have hp := x.precision.toNat_lt
  omega

theorem read_text (x : Decimal) : read x.text = .ok x.reduced := by
  rw [← text_numeral, x.numeral.read_text x.length_fraction_lt, reduced]

theorem reduced_filled (x : Decimal) : ∃ k, x.reduced.precision.toNat + k = x.precision.toNat ∧
    x.reduced.magnitude * 10 ^ k = x.magnitude := by
  obtain ⟨k, hk, hnumber⟩ := x.numeral_filled
  refine ⟨k, by rw [reduced, x.numeral.precision_decimal x.length_fraction_lt, hk], ?_⟩
  have hcast : (x.numeral.number : ℤ) * 10 ^ k = x.magnitude.natAbs := by exact_mod_cast hnumber
  by_cases hneg : x.magnitude < 0
  · have hsign : x.numeral.negative = true := decide_eq_true hneg
    simp only [reduced, Numeral.decimal, hsign, if_true, neg_mul, hcast]
    omega
  · have hsign : x.numeral.negative = false := decide_eq_false hneg
    simp only [reduced, Numeral.decimal, hsign, Bool.false_eq_true, if_false, hcast]
    omega

theorem precision_reduced_le (x : Decimal) : x.reduced.precision ≤ x.precision := by
  obtain ⟨k, hk, -⟩ := x.reduced_filled
  exact UInt32.le_iff_toNat_le.mpr (by omega)

theorem value_reduced (x : Decimal) : x.reduced.value = x.value := by
  obtain ⟨k, hk, hm⟩ := x.reduced_filled
  rw [value, value, ← hk, ← hm, pow_add]
  push_cast
  field_simp

/-- Reading a text and going back to the precision loses nothing. -/
theorem rescale_reduced (x : Decimal) : x.reduced.rescale x.precision = x := by
  rw [rescale_eq_cut, value_reduced, cut_value]

/-- Zero is written without a sign. -/
theorem text_ne_negative_zero (x : Decimal) : x.text ≠ "-0" := by
  intro h
  have hzero : read "-0" = .ok ⟨0, 0⟩ := by decide
  have hreduced : x.reduced = ⟨0, 0⟩ := Except.ok.inj (x.read_text.symm.trans (h ▸ hzero))
  obtain ⟨k, -, hm⟩ := x.reduced_filled
  rw [hreduced, zero_mul] at hm
  have hsign : x.numeral.negative = false := decide_eq_false (by omega)
  have hnumber : x.numeral.number = 0 := by
    rw [← Numeral.natAbs_decimal]
    exact congrArg (fun y => y.magnitude.natAbs) hreduced
  obtain ⟨hwhole, hfraction⟩ := x.numeral.eq_zero_of_number hnumber
  rw [← text_numeral, Numeral.text, Numeral.chars, Numeral.unsigned, hsign, hwhole, hfraction] at h
  exact absurd h (by decide)

end Decimal

end FixedDecimal
