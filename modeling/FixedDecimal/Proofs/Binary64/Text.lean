import FixedDecimal.Binary64.Text
import FixedDecimal.Proofs.Binary64.Shortest
import FixedDecimal.Proofs.Decimal.LiteralValue

/-! Plain texts of doubles. The text of a finite double is a numeral and reads as the double again;
what a text reads as depends on the number it writes and on the sign of a zero. -/
namespace FixedDecimal

/-! ## Reading -/

namespace Literal
variable (l : Literal)

theorem ofChars?_chars : Binary64.ofChars? l.chars =
    some (Binary64.nearest (decide (l.sign = .minus)) (Text.ofDigits l.digits) (10 ^ l.places)) := by
  have hempty : ¬(l.whole.isEmpty && (l.fraction.getD []).isEmpty) = true := by
    have hne := l.digits_ne_nil
    simpa using hne
  have hfraction : Text.allDigits (l.fraction.getD []) = true := by
    cases hf : l.fraction with
    | none => rfl
    | some cs => exact l.fraction_digits cs hf
  rw [Binary64.ofChars?, l.splitSign_chars]
  simp only [l.splitPoint_unsigned, if_neg hempty, l.whole_digits, hfraction, Bool.and_self,
    if_true, Nat.pow_eq]
  rfl

theorem abs_value : |l.value| = Text.ofDigits l.digits / 10 ^ l.places := by
  have hpow : |(10 : ℚ) ^ l.places| = 10 ^ l.places := abs_of_pos (by positivity)
  rw [value_eq, abs_div, hpow, magnitude]
  split_ifs <;> simp

/-- Apart from a zero, the sign of a literal is the sign of its value. -/
theorem sign_eq_minus_iff (h : l.value ≠ 0) : l.sign = .minus ↔ l.value < 0 := by
  have hpos : (0 : ℚ) < 10 ^ l.places := by positivity
  rw [value_eq, div_ne_zero_iff, Int.cast_ne_zero] at h
  rw [value_eq, div_lt_iff₀ hpos, zero_mul, Int.cast_lt_zero]
  have hne := h.1
  rw [magnitude] at hne ⊢
  split_ifs at hne ⊢ with hminus
  · simp only [hminus, true_iff]
    omega
  · simp only [hminus, false_iff]
    omega

theorem ofChars?_congr {l l' : Literal} (hv : l.value = l'.value)
    (hsign : l.sign = .minus ↔ l'.sign = .minus) :
    Binary64.ofChars? l.chars = Binary64.ofChars? l'.chars := by
  have habs := congrArg abs hv
  rw [abs_value, abs_value, div_eq_div_iff (by positivity) (by positivity)] at habs
  rw [ofChars?_chars, ofChars?_chars]
  refine congrArg some ?_
  simp only [hsign]
  exact Binary64.nearest_congr _ (by positivity) (by positivity) (by exact_mod_cast habs)

theorem ofChars?_congr_of_ne_zero {l l' : Literal} (hv : l.value = l'.value) (h : l.value ≠ 0) :
    Binary64.ofChars? l.chars = Binary64.ofChars? l'.chars := by
  refine ofChars?_congr hv ?_
  rw [l.sign_eq_minus_iff h, l'.sign_eq_minus_iff (hv ▸ h), hv]

end Literal

/-! ## Writing -/

namespace Numeral
variable (n : Numeral) (negative : Bool)

def withSign : Numeral := { n with negative := negative }

@[simp] theorem negative_withSign : (n.withSign negative).negative = negative := rfl
@[simp] theorem fraction_withSign : (n.withSign negative).fraction = n.fraction := rfl
@[simp] theorem unsigned_withSign : (n.withSign negative).unsigned = n.unsigned := rfl
@[simp] theorem number_withSign : (n.withSign negative).number = n.number := rfl

theorem ofChars?_chars : Binary64.ofChars? n.chars =
    some (Binary64.nearest n.negative n.number (10 ^ n.fraction.length)) := by
  have hsign : decide (n.literal.sign = .minus) = n.negative := by
    cases h : n.negative <;> simp [literal, h]
  rw [← chars_literal, Literal.ofChars?_chars, hsign, digits_literal, places_literal]
  rfl

end Numeral

namespace Binary64
variable {x : Binary64}

def shortestDecimal (x : Binary64) : Decimal :=
  ⟨(shortest .away x).num, UInt32.ofNat (-(shortest .away x).exponent).toNat⟩

def numeral (x : Binary64) : Numeral := x.shortestDecimal.numeral.withSign x.isNegative

@[simp] theorem negative_numeral (x : Binary64) : x.numeral.negative = x.isNegative :=
  Numeral.negative_withSign _ _

theorem precision_shortestDecimal (x : Binary64) :
    x.shortestDecimal.precision.toNat = (-(shortest .away x).exponent).toNat := by
  have hge := exponent_shortest_ge .away x
  exact UInt32.toNat_ofNat_of_lt' (show _ < 2 ^ 32 by omega)

theorem natAbs_shortestDecimal (x : Binary64) :
    x.shortestDecimal.magnitude.natAbs = (shortest .away x).num :=
  Int.natAbs_natCast _

theorem unsigned_numeral (x : Binary64) : x.numeral.unsigned =
    Text.positional (shortest .away x).num (-(shortest .away x).exponent).toNat := by
  rw [← precision_shortestDecimal, ← natAbs_shortestDecimal, numeral, Numeral.unsigned_withSign,
    Decimal.unsigned_numeral]

theorem chars_numeral (hx : x.isFinite = true) : x.numeral.chars = x.plainText := by
  have hsign : (if x.numeral.negative then ['-'] else []) = x.signText := rfl
  rw [Numeral.chars, hsign, unsigned_numeral, plainText, if_pos hx, Scientific.num]

theorem length_fraction_lt (x : Binary64) : x.numeral.fraction.length < 2 ^ 32 :=
  x.shortestDecimal.length_fraction_lt

theorem number_numeral (x : Binary64) : x.numeral.number * (shortest .away x).den =
    (shortest .away x).num * 10 ^ x.numeral.fraction.length := by
  obtain ⟨k, hlen, hnumber⟩ := x.shortestDecimal.numeral_filled
  rw [precision_shortestDecimal] at hlen
  rw [natAbs_shortestDecimal] at hnumber
  rw [numeral, Numeral.number_withSign, Numeral.fraction_withSign, Scientific.den, ← hlen,
    ← hnumber, Nat.pow_eq, pow_add]
  ring

theorem value_numeral (x : Binary64) : x.numeral.literal.value =
    (if x.isNegative then -1 else 1) * ((shortest .away x).num / (shortest .away x).den : ℚ) := by
  have hnumber := x.number_numeral
  have hden := (shortest .away x).den_pos
  have habs : (x.numeral.number / 10 ^ x.numeral.fraction.length : ℚ) =
      (shortest .away x).num / (shortest .away x).den := by
    rw [div_eq_div_iff (by positivity) (by positivity)]
    exact_mod_cast hnumber
  rw [Literal.value_eq, Numeral.magnitude_literal, Numeral.places_literal, ← habs]
  cases h : x.isNegative with
  | false => simp [Numeral.decimal, h]
  | true => simp [Numeral.decimal, h, neg_div]

theorem value_numeral_neg (x : Binary64) :
    x.neg.numeral.literal.value = -x.numeral.literal.value := by
  rw [value_numeral, value_numeral, isNegative_neg, shortest_neg]
  cases x.isNegative <;> simp

theorem ofChars?_plainText (hx : x.isFinite = true) : ofChars? x.plainText = some x := by
  have hback := readsBack_iff.mp (readsBack_shortest .away hx)
  rw [← chars_numeral hx, Numeral.ofChars?_chars, negative_numeral,
    nearest_congr _ (by positivity) (shortest .away x).den_pos x.number_numeral, hback]

/-! ## Whole numbers and zeros -/

def value (x : Binary64) : ℚ := (if x.isNegative then -1 else 1) * (x.units / unitsInOne)

theorem units_of_value {n : ℤ} (h : x.value = n) : x.units = n.natAbs * unitsInOne := by
  have hpos : (0 : ℚ) < unitsInOne := Nat.cast_pos.mpr unitsInOne_pos
  have habs : (x.units : ℚ) / unitsInOne = n.natAbs := by
    have hsign : |(if x.isNegative then -1 else 1 : ℚ)| = 1 := by
      cases x.isNegative <;> simp
    have hvalue := congrArg abs h
    rw [value, abs_mul, hsign, one_mul,
      abs_of_nonneg (div_nonneg (Nat.cast_nonneg _) hpos.le)] at hvalue
    rw [hvalue, Nat.cast_natAbs, Int.cast_abs]
  rw [div_eq_iff hpos.ne'] at habs
  exact_mod_cast habs

theorem value_of_units {n : ℕ} (h : x.units = n * unitsInOne) :
    x.value = (if x.isNegative then -1 else 1) * n := by
  have hpos : (unitsInOne : ℚ) ≠ 0 := Nat.cast_ne_zero.mpr unitsInOne_pos.ne'
  rw [value, h, Nat.cast_mul, mul_div_cancel_right₀ _ hpos]

theorem value_numeral_of_whole {n : ℤ} (hx : x.isFinite = true) (h : x.value = n)
    (hn : |n| ≤ 2 ^ 53) : x.numeral.literal.value = n := by
  have hden : ((shortest .away x).den : ℚ) ≠ 0 :=
    Nat.cast_ne_zero.mpr (shortest .away x).den_pos.ne'
  have hunits := units_of_value h
  have hsmall : n.natAbs ≤ 2 ^ 53 := by
    rw [Int.abs_eq_natAbs] at hn
    exact_mod_cast hn
  rw [value_numeral, shortest_whole hx hunits hsmall .away, ← h, value_of_units hunits,
    Nat.cast_mul, mul_div_cancel_right₀ _ hden]

theorem value_numeral_eq_zero_iff (hx : x.isFinite = true) :
    x.numeral.literal.value = 0 ↔ x = ⟨0⟩ ∨ x = ⟨0x8000000000000000⟩ := by
  constructor
  · intro h
    have hden := (shortest .away x).den_pos
    have hnum : (shortest .away x).num = 0 := by
      rw [value_numeral] at h
      cases hsign : x.isNegative <;> simpa [hsign, hden.ne'] using h
    have hback := readsBack_iff.mp (readsBack_shortest .away hx)
    rw [hnum, nearest_congr _ hden one_pos (by rw [zero_mul, zero_mul])] at hback
    cases hsign : x.isNegative with
    | false =>
      rw [hsign] at hback
      exact .inl (hback.symm.trans (by decide +kernel))
    | true =>
      rw [hsign] at hback
      exact .inr (hback.symm.trans (by decide +kernel))
  · intro h
    have hunits : x.units = 0 := by
      obtain rfl | rfl := h <;> decide +kernel
    have hzero : x.value = (0 : ℤ) := by
      rw [value, hunits, Nat.cast_zero, zero_div, mul_zero, Int.cast_zero]
    simpa using value_numeral_of_whole hx hzero (by simp)

end Binary64

end FixedDecimal
