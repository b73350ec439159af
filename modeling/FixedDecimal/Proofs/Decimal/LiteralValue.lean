import FixedDecimal.Proofs.Decimal.Numeral

/-! The rational that a literal writes, digit by digit, and what reading makes of it. -/
namespace FixedDecimal

namespace Literal
variable (l : Literal)

def value : ℚ :=
  (if l.sign = .minus then -1 else 1) *
    (Text.ofDigits l.whole + Text.ofDigits (l.fraction.getD []) / 10 ^ l.places)

theorem value_eq : l.value = l.magnitude / 10 ^ l.places := by
  have hdigits : Text.ofDigits l.digits =
      10 ^ l.places * Text.ofDigits l.whole + Text.ofDigits (l.fraction.getD []) :=
    Text.ofDigits_append l.whole (l.fraction.getD [])
  have hpos : (10 : ℚ) ^ l.places ≠ 0 := by positivity
  rw [value, magnitude, hdigits]
  split_ifs
  · push_cast
    field_simp
  · push_cast
    field_simp

end Literal

namespace Decimal

theorem value_of_places {l : Literal} {p : Precision} (h : p.toNat = l.places) :
    (⟨l.magnitude, p⟩ : Decimal).value = l.value := by
  rw [value, h, l.value_eq]

/-- Reading finds the literal that stands in a text, with its places and its value. -/
theorem read_eq_ok_iff_value {s : String} {x : Decimal} : read s = .ok x ↔
    ∃ l : Literal, l.StandsIn s ∧ x.precision.toNat = l.places ∧ x.value = l.value := by
  rw [read_eq_ok_iff]
  refine exists_congr fun l => and_congr_right fun _ => ?_
  constructor
  · intro h
    obtain ⟨hlt, rfl⟩ := h
    have hp := UInt32.toNat_ofNat_of_lt' hlt
    exact ⟨hp, value_of_places hp⟩
  · intro h
    obtain ⟨hp, hv⟩ := h
    refine ⟨hp ▸ x.precision.toNat_lt, eq_of_value ?_ ?_⟩
    · rw [hv, value_of_places (hp ▸ UInt32.toNat_ofNat_of_lt' (hp ▸ x.precision.toNat_lt))]
    · rw [← hp, UInt32.ofNat_toNat]

end Decimal

theorem Numeral.value_decimal {n : Numeral} (hlen : n.fraction.length < 2 ^ 32) :
    n.decimal.value = n.literal.value := by
  have hplaces : n.decimal.precision.toNat = n.literal.places := by
    rw [precision_decimal _ hlen, places_literal]
  rw [← Decimal.value_of_places hplaces, magnitude_literal]

theorem Decimal.value_numeral (x : Decimal) : x.numeral.literal.value = x.value := by
  rw [← Numeral.value_decimal x.length_fraction_lt, ← reduced, value_reduced]

end FixedDecimal
