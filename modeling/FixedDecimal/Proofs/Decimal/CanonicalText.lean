import FixedDecimal.Amount
import FixedDecimal.Proofs.Decimal.Numeral

/-! The text of a decimal says which number it is and nothing more. It reads as that number at the
fewest places that hold it, and of all texts in the plain form it is the only one that does. -/
namespace FixedDecimal

namespace Decimal

theorem text_reduced (x : Decimal) : x.reduced.text = x.text := by
  have hzero : x.numeral.text ≠ "-0" := x.text_numeral ▸ x.text_ne_negative_zero
  rw [reduced, x.numeral.text_decimal x.length_fraction_lt hzero, text_numeral]

theorem isLeast_precision_reduced (x : Decimal) :
    IsLeast {places : ℕ | ∃ m : ℤ, x.value = m / 10 ^ places} x.reduced.precision.toNat := by
  refine ⟨⟨x.reduced.magnitude, x.value_reduced.symm⟩, ?_⟩
  rintro places ⟨m, hm⟩
  by_contra hlt
  -- fewer places would make the last digit of the fraction a zero
  obtain ⟨k, hk⟩ := Nat.exists_eq_add_of_lt (not_le.mp hlt)
  have hmag : x.reduced.magnitude = 10 ^ (k + 1) * m := by
    rw [← x.value_reduced, value, hk, Nat.add_assoc, pow_add] at hm
    field_simp at hm
    exact_mod_cast hm
  have hdvd : 10 ∣ x.numeral.number := by
    rw [← Numeral.natAbs_decimal, ← Int.natCast_dvd]
    exact ⟨10 ^ k * m, by rw [← reduced, hmag]; push_cast; ring⟩
  have hne : x.numeral.fraction ≠ [] := by
    intro hf
    rw [reduced, x.numeral.precision_decimal x.length_fraction_lt, hf] at hk
    simp at hk
  exact x.numeral.not_ten_dvd_number hne hdvd

theorem text_eq_iff {x y : Decimal} : x.text = y.text ↔ x.value = y.value := by
  constructor
  · intro h
    have hread := x.read_text.symm.trans (h ▸ y.read_text)
    rw [← value_reduced x, ← value_reduced y, Except.ok.inj hread]
  · intro h
    have hy := y.isLeast_precision_reduced
    rw [← h] at hy
    have hp := UInt32.toNat_inj.mp (x.isLeast_precision_reduced.unique hy)
    rw [← text_reduced x, ← text_reduced y, ← cut_value x.reduced, ← cut_value y.reduced,
      value_reduced, value_reduced, h, hp]

end Decimal

theorem Amount.read_text {s : Schema} (a : Amount s) : Amount.read s a.text = .ok a := by
  have hle : ¬s.precision < a.toDecimal.reduced.precision :=
    UInt32.not_lt.mpr a.toDecimal.precision_reduced_le
  have hback : (ofDecimal a.toDecimal.reduced .towardZero : Amount s) = a :=
    congrArg (fun x => (⟨x.magnitude⟩ : Amount s)) a.toDecimal.rescale_reduced
  simp only [Amount.read, Amount.text, Decimal.read_text, ok_bind, if_neg hle, hback]

theorem Decimal.text_canonical (x : Decimal) :
    (∃ n : Numeral, x.text = n.text) ∧ x.text ≠ "-0" ∧
    (∃ y, read x.text = .ok y ∧ y.precision ≤ x.precision ∧
      IsLeast {places : ℕ | ∃ m : ℤ, x.value = m / 10 ^ places} y.precision.toNat ∧
      y.rescale x.precision = x) ∧
    (∀ y : Decimal, x.text = y.text ↔ x.value = y.value) ∧
    (∀ n : Numeral, n.text ≠ "-0" → n.fraction.length < 2 ^ 32 →
      ∃ y, read n.text = .ok y ∧ y.text = n.text) ∧
    ∀ (s : Schema) (a : Amount s), Amount.read s a.text = .ok a :=
  ⟨⟨x.numeral, x.text_numeral.symm⟩, x.text_ne_negative_zero,
    ⟨x.reduced, x.read_text, x.precision_reduced_le, x.isLeast_precision_reduced,
      x.rescale_reduced⟩,
    fun _ => text_eq_iff,
    fun n hzero hlen => ⟨n.decimal, n.read_text hlen, n.text_decimal hlen hzero⟩,
    fun _ a => a.read_text⟩

/-- Two of the five digits of `-0.00500` can be spared. -/
theorem negativeThousandths_text_canonical :
    (⟨-500, 5⟩ : Decimal).text = "-0.005" ∧ Decimal.read "-0.005" = .ok ⟨-5, 3⟩ ∧
    IsLeast {places : ℕ | ∃ m : ℤ, (⟨-500, 5⟩ : Decimal).value = m / 10 ^ places} 3 ∧
    (⟨-5, 3⟩ : Decimal).rescale 5 = ⟨-500, 5⟩ ∧ (⟨-5, 3⟩ : Decimal).text = "-0.005" ∧
    Amount.read .unbranded (⟨-500⟩ : Amount .unbranded).text = .ok ⟨-500⟩ := by
  have htext : (⟨-500, 5⟩ : Decimal).text = "-0.005" := by decide
  have hread : Decimal.read "-0.005" = .ok ⟨-5, 3⟩ := by decide
  obtain ⟨-, -, ⟨y, hy, -, hleast, hback⟩, -, hnumeral, hamount⟩ := Decimal.text_canonical ⟨-500, 5⟩
  obtain ⟨z, hz, hwritten⟩ := hnumeral (⟨-500, 5⟩ : Decimal).numeral (by decide) (by decide)
  rw [htext] at hy
  rw [Decimal.text_numeral, htext] at hz hwritten
  obtain rfl := Except.ok.inj (hread.symm.trans hy)
  obtain rfl := Except.ok.inj (hread.symm.trans hz)
  exact ⟨htext, hread, hleast, hback, hwritten, hamount _ _⟩

end FixedDecimal
