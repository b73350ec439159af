import FixedDecimal.Proofs.Decimal.Rescaling

/-! Amounts and decimals of ninety-six bits. An amount goes over exactly when the digits that have a
place there fit, and it comes back with these digits. -/
namespace FixedDecimal

namespace Decimal96

/-- Why a mantissa is refused: by its bits when a 128-bit integer holds it, and outright when
none does. -/
def refusal (mantissa : ℤ) : String :=
  if -2 ^ 127 ≤ mantissa ∧ mantissa < 2 ^ 127 then
    if 0 < mantissa then "Number exceeds maximum value that can be represented."
    else "Number less than minimum value that can be represented."
  else s!"{mantissa} does not fit a Decimal"

theorem natAbs_lt_iff {m : ℤ} : m.natAbs < Nat.pow 2 96 ↔ |m| ≤ 2 ^ 96 - 1 := by
  have hpow : ((Nat.pow 2 96 : ℕ) : ℤ) = 2 ^ 96 := rfl
  rw [Int.abs_eq_natAbs]
  omega

theorem abs_mantissa_le (d : Decimal96) : |d.mantissa| ≤ 2 ^ 96 - 1 :=
  natAbs_lt_iff.mp d.mantissa_lt

theorem make_eq_ok {m : ℤ} {scale : Precision} {d : Decimal96} :
    make m scale = .ok d ↔ d.toDecimal = ⟨m, scale⟩ := by
  constructor
  · intro h
    unfold make at h
    split_ifs at h
    cases h
    rfl
  · intro h
    obtain ⟨rfl, rfl⟩ := Decimal.mk.inj h
    exact d.make_self

theorem make_of_large {m : ℤ} {scale : Precision} (hs : scale ≤ maxScale)
    (hm : 2 ^ 96 - 1 < |m|) (hbits : -2 ^ 127 ≤ m ∧ m < 2 ^ 127) :
    make m scale = .error (.conversion (refusal m)) := by
  have hlarge : ¬m.natAbs < Nat.pow 2 96 := fun h => absurd (natAbs_lt_iff.mp h) (not_le.mpr hm)
  rw [make, dif_pos (show scale ≤ 28 from hs), dif_neg hlarge, refusal, if_pos hbits]
  split_ifs <;> rfl

end Decimal96

namespace Amount
variable {s : Schema}

def placed (a : Amount s) : Decimal := a.toDecimal.rescale (min s.precision Decimal96.maxScale)

theorem precision_placed (a : Amount s) :
    a.placed.precision = min s.precision Decimal96.maxScale :=
  a.toDecimal.precision_rescale _

theorem placed_of_le (a : Amount s) (h : s.precision ≤ Decimal96.maxScale) :
    a.placed = a.toDecimal := by
  rw [placed, Std.min_eq_if, if_pos h]
  exact a.toDecimal.rescaleWith_self .towardZero

theorem placed_of_lt (a : Amount s) (h : Decimal96.maxScale < s.precision) :
    a.placed = Decimal.cut a.toDecimal.value Decimal96.maxScale := by
  rw [placed, Std.min_eq_if, if_neg (UInt32.not_le.mpr h), Decimal.rescale_eq_cut]

theorem toDecimal96_of_small (a : Amount s) (h : |a.placed.magnitude| ≤ 2 ^ 96 - 1) :
    a.toDecimal96 = Decimal96.make a.placed.magnitude a.placed.precision := by
  have hbits : -Nat.pow 2 127 ≤ a.placed.magnitude ∧ a.placed.magnitude < Nat.pow 2 127 := by
    have hpow : ((Nat.pow 2 127 : ℕ) : ℤ) = 2 ^ 127 := rfl
    rw [abs_le] at h
    omega
  exact if_pos hbits

theorem toDecimal96_of_large (a : Amount s) (h : 2 ^ 96 - 1 < |a.placed.magnitude|) :
    a.toDecimal96 = .error (.conversion (Decimal96.refusal a.placed.magnitude)) := by
  have hpow : ((Nat.pow 2 127 : ℕ) : ℤ) = 2 ^ 127 := rfl
  by_cases hbits : -2 ^ 127 ≤ a.placed.magnitude ∧ a.placed.magnitude < 2 ^ 127
  · have hscale : a.placed.precision ≤ Decimal96.maxScale := by
      rw [precision_placed]
      exact Std.min_le_right
    rw [← Decimal96.make_of_large hscale h hbits]
    exact if_pos hbits
  · rw [Decimal96.refusal, if_neg hbits]
    exact if_neg hbits

theorem toDecimal96_eq_ok {a : Amount s} {d : Decimal96} :
    a.toDecimal96 = .ok d ↔ d.toDecimal = a.placed := by
  by_cases h : |a.placed.magnitude| ≤ 2 ^ 96 - 1
  · rw [a.toDecimal96_of_small h, Decimal96.make_eq_ok]
  · rw [a.toDecimal96_of_large (not_le.mp h)]
    refine ⟨nofun, fun hd => absurd d.abs_mantissa_le ?_⟩
    rwa [show d.mantissa = a.placed.magnitude from congrArg Decimal.magnitude hd]

theorem exists_toDecimal96 {a : Amount s} :
    (∃ d, a.toDecimal96 = .ok d) ↔ |a.placed.magnitude| ≤ 2 ^ 96 - 1 := by
  constructor
  · intro h
    obtain ⟨d, hd⟩ := h
    rw [← toDecimal96_eq_ok.mp hd]
    exact d.abs_mantissa_le
  · intro h
    have hscale : a.placed.precision ≤ 28 := by
      rw [precision_placed]
      exact Std.min_le_right
    exact ⟨⟨a.placed.magnitude, a.placed.precision, hscale, Decimal96.natAbs_lt_iff.mpr h⟩,
      toDecimal96_eq_ok.mpr rfl⟩

theorem toDecimal96_eq_error {a : Amount s} {e : Error} :
    a.toDecimal96 = .error e ↔ 2 ^ 96 - 1 < |a.placed.magnitude| ∧
      e = .conversion (Decimal96.refusal a.placed.magnitude) := by
  by_cases h : |a.placed.magnitude| ≤ 2 ^ 96 - 1
  · obtain ⟨d, hd⟩ := exists_toDecimal96.mpr h
    rw [hd]
    exact ⟨nofun, fun he => absurd he.1 (not_lt.mpr h)⟩
  · have hlarge := not_le.mp h
    rw [a.toDecimal96_of_large hlarge, Except.error.injEq, eq_comm]
    exact ⟨fun he => ⟨hlarge, he⟩, And.right⟩

theorem toDecimal_ofDecimal96 (d : Decimal96) :
    (ofDecimal96 d : Amount s).toDecimal = d.toDecimal.rescale s.precision :=
  toDecimal_ofDecimal d.toDecimal .towardZero

/-- What comes back of an amount that went over. -/
theorem value_ofDecimal96 {a : Amount s} {d : Decimal96} (h : a.toDecimal96 = .ok d) :
    (ofDecimal96 d : Amount s).toDecimal.value = a.placed.value := by
  rw [toDecimal_ofDecimal96, toDecimal96_eq_ok.mp h, Decimal.value_rescale_of_le]
  rw [precision_placed]
  exact Std.min_le_left

section
variable {d : Decimal96} (hs : d.scale ≤ s.precision)
include hs

theorem value_ofDecimal96_of_le :
    (ofDecimal96 d : Amount s).toDecimal.value = d.toDecimal.value := by
  rw [toDecimal_ofDecimal96]
  exact d.toDecimal.value_rescale_of_le hs

theorem magnitude_ofDecimal96_of_le : (ofDecimal96 d : Amount s).magnitude =
    d.mantissa * 10 ^ (s.precision.toNat - d.scale.toNat) := by
  have hsub : (s.precision - d.scale).toNat = s.precision.toNat - d.scale.toNat :=
    UInt32.toNat_sub_of_le _ _ hs
  have hnot : ¬s.precision < d.toDecimal.precision := UInt32.not_lt.mpr hs
  rw [ofDecimal96, ofDecimal, Decimal.rescaleWith, if_neg hnot, ← hsub]
  simp [Decimal96.toDecimal, pow10]

end

end Amount

open Amount in
/-- Amounts of a schema taken to 96-bit decimals and back, and 96-bit decimals taken to the schema
and back. -/
theorem decimal96_exchange (s : Schema) :
    (∀ a : Amount s,
      (∀ d, a.toDecimal96 = .ok d ↔
        d.mantissa = a.placed.magnitude ∧ d.scale = min s.precision Decimal96.maxScale) ∧
      ((∃ d, a.toDecimal96 = .ok d) ↔ |a.placed.magnitude| ≤ 2 ^ 96 - 1) ∧
      (∀ e, a.toDecimal96 = .error e ↔ 2 ^ 96 - 1 < |a.placed.magnitude| ∧
        e = .conversion (Decimal96.refusal a.placed.magnitude)) ∧
      ∀ d, a.toDecimal96 = .ok d →
        (ofDecimal96 d : Amount s).toDecimal = a.placed.rescale s.precision ∧
        (s.precision ≤ Decimal96.maxScale → ofDecimal96 d = a) ∧
        (Decimal96.maxScale < s.precision → (ofDecimal96 d : Amount s).toDecimal.value =
          (Decimal.cut a.toDecimal.value Decimal96.maxScale).value)) ∧
    ∀ d : Decimal96, d.scale ≤ s.precision → s.precision ≤ Decimal96.maxScale →
      (ofDecimal96 d : Amount s).toDecimal.value = d.toDecimal.value ∧
      (∀ r, (ofDecimal96 d : Amount s).toDecimal96 = .ok r ↔
        r.toDecimal.value = d.toDecimal.value ∧ r.scale = s.precision) ∧
      ((∃ e, (ofDecimal96 d : Amount s).toDecimal96 = .error e) ↔
        2 ^ 96 - 1 < |d.mantissa| * 10 ^ (s.precision.toNat - d.scale.toNat)) ∧
      ∀ e, (ofDecimal96 d : Amount s).toDecimal96 = .error e → ∃ text, e = .conversion text := by
  refine ⟨?_, ?_⟩
  · intro a
    refine ⟨?_, exists_toDecimal96, fun e => toDecimal96_eq_error, ?_⟩
    · intro d
      rw [toDecimal96_eq_ok, Decimal.ext_iff, precision_placed]
      rfl
    · intro d hd
      have hback := toDecimal_ofDecimal96 (s := s) d
      rw [toDecimal96_eq_ok.mp hd] at hback
      refine ⟨hback, ?_, ?_⟩
      · intro hle
        refine toDecimal_injective ?_
        rw [hback, a.placed_of_le hle]
        exact a.toDecimal.rescaleWith_self .towardZero
      · intro hlt
        rw [value_ofDecimal96 hd, a.placed_of_lt hlt]
  · intro d hs hle
    have hplaced := (ofDecimal96 d : Amount s).placed_of_le hle
    have hvalue := value_ofDecimal96_of_le hs
    refine ⟨hvalue, ?_, ?_, ?_⟩
    · intro r
      rw [toDecimal96_eq_ok, hplaced, ← hvalue]
      exact ⟨fun h => h ▸ ⟨rfl, congrArg Decimal.precision h⟩,
        fun h => Decimal.eq_of_value h.1 h.2⟩
    · simp only [toDecimal96_eq_error, hplaced, toDecimal, magnitude_ofDecimal96_of_le hs, abs_mul,
        exists_and_left, exists_eq, and_true]
      rw [abs_of_pos (a := (10 : ℤ) ^ _) (by positivity)]
    · intro e he
      exact ⟨_, (toDecimal96_eq_error.mp he).2⟩

def minusThird : Decimal96 := ⟨-3333333333333333333333333333, 28, by decide, by decide⟩

/-- A schema of thirty digits loses two of them; one more digit is too much for the largest
mantissa. -/
theorem minusThird_decimal96_exchange :
    (⟨-333333333333333333333333333333⟩ : Amount ⟨"Thirty", 30⟩).toDecimal96 = .ok minusThird ∧
    Decimal96.maxScale < 30 ∧
    (Amount.ofDecimal96 minusThird : Amount ⟨"Thirty", 30⟩).toDecimal.value =
      (Decimal.cut (⟨-333333333333333333333333333333, 30⟩ : Decimal).value 28).value ∧
    (1 : Precision) ≤ 2 ∧ (2 : Precision) ≤ Decimal96.maxScale ∧
    ∃ e, (Amount.ofDecimal96 ⟨2 ^ 96 - 1, 1, by decide, by decide⟩ :
      Amount ⟨"Two", 2⟩).toDecimal96 = .error e := by
  obtain ⟨hto, -⟩ := decimal96_exchange ⟨"Thirty", 30⟩
  obtain ⟨-, hfrom⟩ := decimal96_exchange ⟨"Two", 2⟩
  obtain ⟨hok, -, -, hback⟩ := hto ⟨-333333333333333333333333333333⟩
  have hthird := (hok minusThird).mpr ⟨by decide, rfl⟩
  have hthirty : Decimal96.maxScale < 30 := by decide
  have hone : (1 : Precision) ≤ 2 := by decide
  have htwo : (2 : Precision) ≤ Decimal96.maxScale := by decide
  obtain ⟨-, -, hlarge, -⟩ := hfrom ⟨2 ^ 96 - 1, 1, by decide, by decide⟩ hone htwo
  exact ⟨hthird, hthirty, (hback minusThird hthird).2.2 hthirty, hone, htwo,
    hlarge.mpr (by decide)⟩

end FixedDecimal
