import FixedDecimal.Binary64.Basic
import FixedDecimal.Proofs.Rounding.Exact

/-! The double nearest to a fraction. It depends on the number alone and keeps the order of
numbers, and a number that is a double already is its own nearest double. -/
namespace FixedDecimal

namespace Rounding
variable (mode : Rounding) {n d n' d' k : ℕ}

theorem divNat_mono (hd : 0 < d) (hd' : 0 < d') (h : n * d' ≤ n' * d) :
    mode.divNat n d ≤ mode.divNat n' d' := by
  have hle : ((n : ℤ) : ℚ) / (d : ℤ) ≤ (n' : ℤ) / (d' : ℤ) := by
    rw [div_le_div_iff₀ (by exact_mod_cast hd) (by exact_mod_cast hd')]
    exact_mod_cast h
  exact_mod_cast (mode.rounds_divNat n hd).mono (mode.rounds_divNat n' hd') hle

theorem divNat_le (hd : 0 < d) (h : n ≤ k * d) : mode.divNat n d ≤ k :=
  (mode.divNat_mono hd hd (Nat.mul_le_mul_right d h)).trans_eq (mode.divNat_mul_self k hd)

theorem le_divNat (hd : 0 < d) (h : k * d ≤ n) : k ≤ mode.divNat n d :=
  (mode.divNat_mul_self k hd).symm.trans_le (mode.divNat_mono hd hd (Nat.mul_le_mul_right d h))

end Rounding

namespace Binary64
variable {n d s n' d' s' m e : ℕ}

theorem exists_unitsInOne_eq : ∃ p ≤ 1074, unitsInOne = 2 ^ p := ⟨1074, le_rfl, by decide +kernel⟩

theorem unitsInOne_pos : 0 < unitsInOne := by
  obtain ⟨p, -, hp⟩ := exists_unitsInOne_eq
  rw [hp]
  exact Nat.two_pow_pos p

/-! ## Binades -/

/-- A significand of fifty-three bits that counts units of `2 ^ s` reaches just up to `n / d`. -/
structure Binade (n d s : ℕ) : Prop where
  lt : n < 2 ^ 53 * (d * 2 ^ s)
  le : s = 0 ∨ 2 ^ 52 * (d * 2 ^ s) ≤ n

theorem binade_log2 (n : ℕ) (hd : 0 < d) : Binade n d ((n / d).log2 - 52) := by
  constructor
  · have hq : n / d < 2 ^ (53 + ((n / d).log2 - 52)) :=
      Nat.lt_log2_self.trans_le (Nat.pow_le_pow_right (by decide) (by omega))
    rwa [Nat.div_lt_iff_lt_mul hd, pow_add, mul_assoc, mul_comm _ d] at hq
  · by_cases hs : (n / d).log2 - 52 = 0
    · exact .inl hs
    · right
      have hne : n / d ≠ 0 := by
        intro h
        simp [h] at hs
      have hq : 2 ^ (52 + ((n / d).log2 - 52)) ≤ n / d := by
        rw [Nat.add_sub_cancel' (by omega)]
        exact Nat.log2_self_le hne
      rwa [Nat.le_div_iff_mul_le hd, pow_add, mul_assoc, mul_comm _ d] at hq

theorem Binade.mono (hd : 0 < d) (h : Binade n d s) (h' : Binade n' d' s')
    (hle : n * d' ≤ n' * d) : s ≤ s' := by
  obtain rfl | hs := h.le
  · exact Nat.zero_le s'
  · have hlt : 2 ^ (52 + s) * (d * d') < 2 ^ (53 + s') * (d * d') := by
      calc 2 ^ (52 + s) * (d * d') = 2 ^ 52 * (d * 2 ^ s) * d' := by ring
        _ ≤ n * d' := Nat.mul_le_mul_right d' hs
        _ ≤ n' * d := hle
        _ < 2 ^ 53 * (d' * 2 ^ s') * d := Nat.mul_lt_mul_of_pos_right h'.lt hd
        _ = 2 ^ (53 + s') * (d * d') := by ring
    have hexp := (Nat.pow_lt_pow_iff_right (by decide)).mp (Nat.lt_of_mul_lt_mul_right hlt)
    omega

theorem Binade.unique (hd : 0 < d) (h : Binade n d s) (h' : Binade n d s') : s = s' :=
  le_antisymm (h.mono hd h' le_rfl) (h'.mono hd h le_rfl)

/-- Rounding in a binade may reach the next one and does not leave it downwards. -/
theorem Binade.rounded (hd : 0 < d) (h : Binade n d s) :
    Rounding.halfEven.divNat n (d * 2 ^ s) ≤ 2 ^ 53 ∧
      (s = 0 ∨ 2 ^ 52 ≤ Rounding.halfEven.divNat n (d * 2 ^ s)) := by
  have hpos : 0 < d * 2 ^ s := Nat.mul_pos hd (Nat.two_pow_pos s)
  exact ⟨Rounding.divNat_le _ hpos h.lt.le, h.le.imp_right (Rounding.le_divNat _ hpos)⟩

/-! ## The nearest double -/

theorem exists_nearestBits (n : ℕ) (hd : 0 < d) : ∃ s, Binade (n * unitsInOne) d s ∧
    nearestBits n d = min infinityBits
      (s * 2 ^ 52 + Rounding.halfEven.divNat (n * unitsInOne) (d * 2 ^ s)) :=
  ⟨_, binade_log2 (n * unitsInOne) hd, rfl⟩

/-- A larger number never has a smaller nearest double. -/
theorem nearestBits_mono (hd : 0 < d) (hd' : 0 < d') (h : n * d' ≤ n' * d) :
    nearestBits n d ≤ nearestBits n' d' := by
  obtain ⟨s, hs, hbits⟩ := exists_nearestBits n hd
  obtain ⟨s', hs', hbits'⟩ := exists_nearestBits n' hd'
  have hunits : n * unitsInOne * d' ≤ n' * unitsInOne * d := by
    rw [mul_right_comm, mul_right_comm n']
    exact Nat.mul_le_mul_right _ h
  rw [hbits, hbits']
  refine min_le_min_left _ ?_
  obtain rfl | hlt := (hs.mono hd hs' hunits).eq_or_lt
  · refine Nat.add_le_add_left (Rounding.divNat_mono _ ?_ ?_ ?_) _
    · exact Nat.mul_pos hd (Nat.two_pow_pos s)
    · exact Nat.mul_pos hd' (Nat.two_pow_pos s)
    · rw [← mul_assoc, ← mul_assoc]
      exact Nat.mul_le_mul_right _ hunits
  · -- what is rounded in a lower binade ends where the next one begins
    have hupper := (hs.rounded hd).1
    have hlower := (hs'.rounded hd').2.resolve_left (by omega)
    omega

/-- Only the number counts, whatever fraction it is given by. -/
theorem nearestBits_congr (hd : 0 < d) (hd' : 0 < d') (h : n * d' = n' * d) :
    nearestBits n d = nearestBits n' d' :=
  le_antisymm (nearestBits_mono hd hd' h.le) (nearestBits_mono hd' hd h.ge)

theorem nearest_congr (negative : Bool) (hd : 0 < d) (hd' : 0 < d') (h : n * d' = n' * d) :
    nearest negative n d = nearest negative n' d' := by
  rw [nearest, nearest, nearestBits_congr hd hd' h]

/-! ## Doubles are their own nearest doubles -/

/-- A significand and an exponent as a double has them: without a leading bit only below the
smallest normal number. -/
structure Normal (m e : ℕ) : Prop where
  lt : m < 2 ^ 53
  leading : e = 0 ∨ 2 ^ 52 ≤ m

theorem Normal.binade (h : Normal m e) (hd : 0 < d) : Binade (m * 2 ^ e * d) d e := by
  have hpos : 0 < d * 2 ^ e := Nat.mul_pos hd (Nat.two_pow_pos e)
  rw [mul_assoc, mul_comm (2 ^ e)]
  exact ⟨Nat.mul_lt_mul_of_pos_right h.lt hpos, h.leading.imp_right (Nat.mul_le_mul_right _)⟩

theorem Normal.nearestBits_units (h : Normal m e) :
    nearestBits (m * 2 ^ e) unitsInOne = min infinityBits (e * 2 ^ 52 + m) := by
  obtain ⟨s, hs, hbits⟩ := exists_nearestBits (m * 2 ^ e) unitsInOne_pos
  obtain rfl := hs.unique unitsInOne_pos (h.binade unitsInOne_pos)
  have hpos : 0 < unitsInOne * 2 ^ s := Nat.mul_pos unitsInOne_pos (Nat.two_pow_pos s)
  rw [hbits, mul_assoc m, mul_comm (2 ^ s), Rounding.divNat_mul_self _ m hpos]

/-- Two doubles with the same bits have the same significand and exponent. -/
theorem Normal.unique (h : Normal m e) (h' : Normal n s) (hbits : e * 2 ^ 52 + m = s * 2 ^ 52 + n) :
    m = n ∧ e = s := by
  have hlt := h.lt
  have hlt' := h'.lt
  have hlead := h.leading
  have hlead' := h'.leading
  omega

section
variable {x : Binary64}

theorem normal_significand (x : Binary64) : Normal x.significand (x.exponentField - 1) := by
  have hf : x.fractionField < 2 ^ 52 := Nat.mod_lt _ (by decide)
  rw [significand]
  split_ifs with h
  · exact ⟨by omega, .inl (by omega)⟩
  · exact ⟨by change 2 ^ 52 + _ < _; omega, .inr (by change 2 ^ 52 ≤ 2 ^ 52 + _; omega)⟩

theorem exponentField_lt (hx : x.isFinite = true) : x.exponentField < 2047 := of_decide_eq_true hx

/-- The bits of a double are its sign and then its exponent and significand, added up. -/
theorem toNat_bits (x : Binary64) : x.bits.toNat =
    (x.exponentField - 1) * 2 ^ 52 + x.significand + if x.isNegative then 2 ^ 63 else 0 := by
  have hlt := x.bits.toNat_lt
  have hpow : Nat.pow 2 52 = 2 ^ 52 := rfl
  have hpow' : Nat.pow 2 63 = 2 ^ 63 := rfl
  have hpow'' : Nat.pow 2 11 = 2 ^ 11 := rfl
  simp only [significand, exponentField, fractionField, isNegative, hpow, hpow', hpow'',
    decide_eq_true_eq]
  split_ifs <;> omega

theorem units_eq (x : Binary64) : x.units = x.significand * 2 ^ (x.exponentField - 1) := rfl

theorem nearest_units (hx : x.isFinite = true) :
    nearest x.isNegative x.units unitsInOne = x := by
  have hfield := exponentField_lt hx
  have hsig := x.normal_significand.lt
  have hfits : (x.exponentField - 1) * 2 ^ 52 + x.significand ≤ infinityBits := by
    change _ ≤ 2047 * 2 ^ 52
    omega
  have hbits := x.normal_significand.nearestBits_units
  rw [Nat.min_eq_right hfits] at hbits
  rw [nearest, units_eq, hbits, Nat.pow_eq, ← x.toNat_bits, UInt64.ofNat_toNat]

end

/-! ## Whole numbers -/

/-- Every `m * 2 ^ p` with a significand of fifty-three bits is a double. -/
theorem exists_normal (hm : m ≤ 2 ^ 53) (p : ℕ) :
    ∃ m' e, Normal m' e ∧ m' * 2 ^ e = m * 2 ^ p ∧ e ≤ p + 1 := by
  induction p generalizing m with
  | zero =>
    obtain rfl | hlt := hm.eq_or_lt
    · exact ⟨2 ^ 52, 1, ⟨by decide, .inr le_rfl⟩, by decide, le_rfl⟩
    · exact ⟨m, 0, ⟨hlt, .inl rfl⟩, rfl, Nat.zero_le _⟩
  | succ p ih =>
    by_cases hsmall : m < 2 ^ 52
    · obtain ⟨m', e, hnormal, heq, hle⟩ := ih (m := 2 * m) (by omega)
      exact ⟨m', e, hnormal, by rw [heq, pow_succ]; ring, by omega⟩
    · obtain rfl | hlt := hm.eq_or_lt
      · exact ⟨2 ^ 52, p + 2, ⟨by decide, .inr le_rfl⟩, by rw [pow_add, pow_add]; ring, le_rfl⟩
      · exact ⟨m, p + 1, ⟨hlt, .inr (by omega)⟩, rfl, by omega⟩

theorem exists_nearestBits_whole (hn : n ≤ 2 ^ 53) : ∃ m e, Normal m e ∧
    m * 2 ^ e = n * unitsInOne ∧ nearestBits n 1 = e * 2 ^ 52 + m := by
  obtain ⟨p, hp, hunits⟩ := exists_unitsInOne_eq
  obtain ⟨m, e, hnormal, heq, hle⟩ := exists_normal hn p
  rw [← hunits] at heq
  have hfits : e * 2 ^ 52 + m ≤ infinityBits := by
    have hlt := hnormal.lt
    change _ ≤ 2047 * 2 ^ 52
    omega
  refine ⟨m, e, hnormal, heq, ?_⟩
  rw [← Nat.min_eq_right hfits, ← hnormal.nearestBits_units]
  refine nearestBits_congr one_pos unitsInOne_pos ?_
  rw [heq, mul_one]

theorem nearestBits_whole_injective (hn : n ≤ 2 ^ 53) (hm : m ≤ 2 ^ 53)
    (h : nearestBits n 1 = nearestBits m 1) : n = m := by
  obtain ⟨a, e, ha, heq, hbits⟩ := exists_nearestBits_whole hn
  obtain ⟨b, s, hb, heq', hbits'⟩ := exists_nearestBits_whole hm
  obtain ⟨rfl, rfl⟩ := ha.unique hb (hbits.symm.trans (h.trans hbits'))
  exact Nat.eq_of_mul_eq_mul_right unitsInOne_pos (heq.symm.trans heq')

/-- The doubles next to `2 ^ 53` are two apart. -/
theorem nearestBits_lt_of_large (hn : n ≤ 2 ^ 53) (hm : 2 ^ 53 + 2 ≤ m) :
    nearestBits n 1 < nearestBits m 1 := by
  calc nearestBits n 1 ≤ nearestBits (2 ^ 53) 1 := nearestBits_mono one_pos one_pos (by omega)
    _ < nearestBits (2 ^ 53 + 2) 1 := by decide +kernel
    _ ≤ nearestBits m 1 := nearestBits_mono one_pos one_pos (by omega)

/-- No multiple of ten is next to `2 ^ 53`. -/
theorem eq_of_ten_dvd (hn : n ≤ 2 ^ 53) (hten : 10 ∣ m) (h : nearestBits m 1 = nearestBits n 1) :
    m = n := by
  by_cases hm : m ≤ 2 ^ 53
  · exact nearestBits_whole_injective hm hn h
  · have hlt := nearestBits_lt_of_large (m := m) hn (by omega)
    exact absurd h hlt.ne'

end Binary64

end FixedDecimal
