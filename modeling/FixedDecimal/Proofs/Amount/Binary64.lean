import FixedDecimal.Amount
import FixedDecimal.Proofs.Binary64.Text
import FixedDecimal.Proofs.Decimal.Rescaling

/-! Amounts and doubles. An amount is made of the number that the text of a double writes, rounded
once; when the schema has room for all the digits, the amount reads as the double again. -/
namespace FixedDecimal

namespace Decimal

theorem toBinary64_eq (x : Decimal) :
    x.toBinary64 = (Binary64.ofChars? x.numeral.chars).getD .nan := by
  rw [toBinary64, chars_numeral]

theorem toBinary64_of_zero (x : Decimal) (h : x.magnitude = 0) : x.toBinary64 = ⟨0⟩ := by
  obtain ⟨k, -, hnumber⟩ := x.numeral_filled
  have hzero : x.numeral.number = 0 := by
    rw [h] at hnumber
    exact (Nat.mul_eq_zero.mp hnumber).resolve_right (by positivity)
  have hsign : x.numeral.negative = false := decide_eq_false (by omega)
  rw [toBinary64_eq, Numeral.ofChars?_chars, hzero, hsign,
    Binary64.nearest_congr false (by positivity) one_pos (by rw [zero_mul, zero_mul])]
  decide +kernel

end Decimal

namespace Amount
variable {s : Schema}

open Rounding (halfAwayFromZero)

theorem rounds_ofDecimal (x : Decimal) (mode : Rounding) :
    mode.Rounds (x.value * 10 ^ s.precision.toNat) (ofDecimal x mode : Amount s).magnitude :=
  x.rounds_rescaleWith s.precision mode

theorem value_ofDecimal_of_le (x : Decimal) (mode : Rounding) (h : x.precision ≤ s.precision) :
    (ofDecimal x mode : Amount s).toDecimal.value = x.value := by
  rw [toDecimal_ofDecimal, x.value_rescaleWith_of_le h]

variable {x : Binary64}

section
variable {n : Numeral} {a : Amount s} (hx : x.isFinite = true) (htext : n.chars = x.plainText)
  (hlen : n.fraction.length < 2 ^ 32)
include hx htext hlen

theorem ofBinary64_of_text : ofBinary64 s x = .ok (ofDecimal n.decimal .halfAwayFromZero) := by
  have hread := n.read_text hlen
  rw [ofBinary64, if_pos hx, ← htext, ← Numeral.text, hread]
  rfl

theorem ofBinary64_eq_ok : ofBinary64 s x = .ok a ↔
    halfAwayFromZero.Rounds (n.literal.value * 10 ^ s.precision.toNat) a.magnitude := by
  have hrounds := rounds_ofDecimal (s := s) n.decimal .halfAwayFromZero
  rw [Numeral.value_decimal hlen] at hrounds
  rw [ofBinary64_of_text hx htext hlen, Except.ok.injEq]
  constructor
  · intro h
    exact h ▸ hrounds
  · intro h
    exact congrArg Amount.mk (hrounds.unique h)

variable (ha : ofBinary64 s x = .ok a)
include ha

theorem abs_value_sub_le :
    |a.toDecimal.value - n.literal.value| ≤ 1 / 2 / 10 ^ s.precision.toNat := by
  have hpos : (0 : ℚ) < 10 ^ s.precision.toNat := by positivity
  have hhalf := ((ofBinary64_eq_ok hx htext hlen).mp ha).1
  have hscaled : a.toDecimal.value - n.literal.value =
      (a.magnitude - n.literal.value * 10 ^ s.precision.toNat) / 10 ^ s.precision.toNat := by
    rw [Decimal.value, toDecimal, sub_div, mul_div_cancel_right₀ _ hpos.ne']
  rw [hscaled, abs_div, abs_of_pos hpos, abs_sub_comm]
  gcongr

theorem value_of_fits (hfits : n.fraction.length ≤ s.precision.toNat) :
    a.toDecimal.value = n.literal.value := by
  have hamount : a = ofDecimal n.decimal .halfAwayFromZero :=
    Except.ok.inj (ha.symm.trans (ofBinary64_of_text hx htext hlen))
  have hle : n.decimal.precision ≤ s.precision := by
    rwa [UInt32.le_iff_toNat_le, n.precision_decimal hlen]
  rw [hamount, value_ofDecimal_of_le _ _ hle, Numeral.value_decimal hlen]

theorem toBinary64_of_fits (hfits : n.fraction.length ≤ s.precision.toNat)
    (hne : n.literal.value ≠ 0) : a.toDecimal.toBinary64 = x := by
  have hvalue := value_of_fits hx htext hlen ha hfits
  rw [← Decimal.value_numeral] at hvalue
  rw [Decimal.toBinary64_eq, ← Numeral.chars_literal,
    Literal.ofChars?_congr_of_ne_zero hvalue (hvalue ▸ hne), Numeral.chars_literal, htext,
    Binary64.ofChars?_plainText hx]
  rfl

theorem magnitude_of_zero (hzero : n.literal.value = 0) : a.magnitude = 0 := by
  have hrounds := (ofBinary64_eq_ok hx htext hlen).mp ha
  rw [hzero, zero_mul] at hrounds
  exact hrounds.unique (by simpa using Rounding.rounds_intCast .halfAwayFromZero 0)

end

theorem ofBinary64_eq_error {e : Error} :
    ofBinary64 s x = .error e ↔ ¬x.isFinite = true ∧ e = .nonFiniteFloat x := by
  by_cases hx : x.isFinite = true
  · have hok := ofBinary64_of_text (s := s) hx (Binary64.chars_numeral hx) x.length_fraction_lt
    simp [hok, hx]
  · simp [ofBinary64, hx, eq_comm]

theorem ofBinary64_of_whole {n : ℤ} (hx : x.isFinite = true) (h : x.value = n)
    (hn : |n| ≤ 2 ^ 53) : ofBinary64 s x = .ok ⟨n * 10 ^ s.precision.toNat⟩ := by
  rw [ofBinary64_eq_ok hx (Binary64.chars_numeral hx) x.length_fraction_lt,
    Binary64.value_numeral_of_whole hx h hn]
  exact_mod_cast Rounding.rounds_intCast _ (n * 10 ^ s.precision.toNat)

section
variable {a : Amount s} (hx : x.isFinite = true) (ha : ofBinary64 s x = .ok a)
include hx ha

theorem ofBinary64_neg : ofBinary64 s x.neg = .ok ⟨-a.magnitude⟩ := by
  have hx' : x.neg.isFinite = true := x.isFinite_neg.trans hx
  have hneg := (ofBinary64_eq_ok hx (Binary64.chars_numeral hx) x.length_fraction_lt).mp ha |>.neg
  rw [← neg_mul, ← Binary64.value_numeral_neg] at hneg
  exact (ofBinary64_eq_ok hx' (Binary64.chars_numeral hx') x.neg.length_fraction_lt).mpr hneg

/-- Only the sign of a zero is lost. -/
theorem toBinary64_toDecimal (hfits : x.numeral.fraction.length ≤ s.precision.toNat) :
    a.toDecimal.toBinary64 = if x = ⟨0x8000000000000000⟩ then ⟨0⟩ else x := by
  have htext := Binary64.chars_numeral hx
  have hlen := x.length_fraction_lt
  by_cases hzero : x.numeral.literal.value = 0
  · rw [a.toDecimal.toBinary64_of_zero (magnitude_of_zero hx htext hlen ha hzero)]
    obtain rfl | rfl := (Binary64.value_numeral_eq_zero_iff hx).mp hzero
    · rw [if_neg (by decide)]
    · rw [if_pos rfl]
  · have hne : x ≠ ⟨0x8000000000000000⟩ := fun h =>
      hzero ((Binary64.value_numeral_eq_zero_iff hx).mpr (.inr h))
    rw [if_neg hne, toBinary64_of_fits hx htext hlen ha hfits hzero]

end

end Amount

open Amount in
/-- Doubles taken to amounts of a schema and back. -/
theorem binary64_exchange (s : Schema) (x : Binary64) :
    (∀ e, ofBinary64 s x = .error e ↔ ¬x.isFinite = true ∧ e = .nonFiniteFloat x) ∧
    (x.isFinite = true → ∃ a, ofBinary64 s x = .ok a ∧ x.plainText = x.numeral.chars ∧
      Rounding.halfAwayFromZero.Rounds (x.numeral.literal.value * 10 ^ s.precision.toNat)
        a.magnitude ∧
      |a.toDecimal.value - x.numeral.literal.value| ≤ 1 / 2 / 10 ^ s.precision.toNat ∧
      ofBinary64 s x.neg = .ok ⟨-a.magnitude⟩ ∧
      (x.numeral.fraction.length ≤ s.precision.toNat →
        a.toDecimal.toBinary64 = if x = ⟨0x8000000000000000⟩ then ⟨0⟩ else x)) := by
  refine ⟨fun e => ofBinary64_eq_error, ?_⟩
  intro hx
  have htext := Binary64.chars_numeral hx
  have hlen := x.length_fraction_lt
  have hok := ofBinary64_of_text (s := s) hx htext hlen
  exact ⟨_, hok, htext.symm, (ofBinary64_eq_ok hx htext hlen).mp hok,
    abs_value_sub_le hx htext hlen hok, ofBinary64_neg hx hok, toBinary64_toDecimal hx hok⟩

def minusFiveQuarters : Binary64 := ⟨0xBFF4000000000000⟩

/-- Two digits hold it, one digit is half a unit short, and a zero comes back without its sign. -/
theorem minusFiveQuarters_binary64_exchange :
    minusFiveQuarters.isFinite = true ∧
    Amount.ofBinary64 ⟨"One", 1⟩ minusFiveQuarters = .ok ⟨-13⟩ ∧
    Amount.ofBinary64 ⟨"One", 1⟩ minusFiveQuarters.neg = .ok ⟨13⟩ ∧
    minusFiveQuarters.numeral.fraction.length ≤ 2 ∧
    (⟨-125⟩ : Amount ⟨"Two", 2⟩).toDecimal.toBinary64 = minusFiveQuarters ∧
    (⟨0⟩ : Amount ⟨"Two", 2⟩).toDecimal.toBinary64 = ⟨0⟩ := by
  have hfinite : minusFiveQuarters.isFinite = true := by decide
  have hzero : (⟨0x8000000000000000⟩ : Binary64).isFinite = true := by decide
  have hfits : minusFiveQuarters.numeral.fraction.length ≤ 2 := by decide +kernel
  have hfits' : (⟨0x8000000000000000⟩ : Binary64).numeral.fraction.length ≤ 2 := by decide +kernel
  obtain ⟨a, ha, -, -, -, hneg, -⟩ := (binary64_exchange ⟨"One", 1⟩ minusFiveQuarters).2 hfinite
  obtain ⟨b, hb, -, -, -, -, hback⟩ := (binary64_exchange ⟨"Two", 2⟩ minusFiveQuarters).2 hfinite
  obtain ⟨c, hc, -, -, -, -, hlost⟩ := (binary64_exchange ⟨"Two", 2⟩ ⟨0x8000000000000000⟩).2 hzero
  have hone : Amount.ofBinary64 ⟨"One", 1⟩ minusFiveQuarters = .ok ⟨-13⟩ := by decide +kernel
  have htwo : Amount.ofBinary64 ⟨"Two", 2⟩ minusFiveQuarters = .ok ⟨-125⟩ := by decide +kernel
  have hnone : Amount.ofBinary64 ⟨"Two", 2⟩ ⟨0x8000000000000000⟩ = .ok ⟨0⟩ := by decide +kernel
  obtain rfl := Except.ok.inj (ha.symm.trans hone)
  obtain rfl := Except.ok.inj (hb.symm.trans htwo)
  obtain rfl := Except.ok.inj (hc.symm.trans hnone)
  exact ⟨hfinite, hone, hneg, hfits, hback hfits, hlost hfits'⟩

end FixedDecimal
