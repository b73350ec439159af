import FixedDecimal.Proofs.Rounding.Exact

/-! Cutting off toward zero. For quotients of integers it is division toward zero, and one cut
after another comes to a single cut, whatever the signs. -/
namespace FixedDecimal.Rounding

def truncate (x : ℚ) : ℤ := if 0 ≤ x then ⌊x⌋ else ⌈x⌉

theorem rounds_truncate (x : ℚ) : towardZero.Rounds x (truncate x) := by
  by_cases h : 0 ≤ x
  · have hf : (0 : ℚ) ≤ ⌊x⌋ := by exact_mod_cast Int.floor_nonneg.mpr h
    rw [truncate, if_pos h, Rounds, abs_of_nonneg h, abs_of_nonneg hf]
    exact ⟨mul_nonneg h hf, Int.floor_le x, Int.lt_floor_add_one x⟩
  · have hn : x ≤ 0 := (not_le.mp h).le
    have hc : (⌈x⌉ : ℚ) ≤ 0 := by exact_mod_cast Int.ceil_le.mpr (by exact_mod_cast hn)
    have hu := Int.ceil_lt_add_one x
    rw [truncate, if_neg h, Rounds, abs_of_nonpos hn, abs_of_nonpos hc]
    exact ⟨mul_nonneg_of_nonpos_of_nonpos hn hc, neg_le_neg (Int.le_ceil x), by linarith⟩

theorem rounds_towardZero_iff {x : ℚ} {n : ℤ} : towardZero.Rounds x n ↔ n = truncate x :=
  ⟨fun h => h.unique (rounds_truncate x), fun h => h ▸ rounds_truncate x⟩

theorem truncate_intCast (n : ℤ) : truncate n = n :=
  (rounds_towardZero_iff.mp (towardZero.rounds_intCast n)).symm

theorem truncate_neg (x : ℚ) : truncate (-x) = -truncate x :=
  (rounds_towardZero_iff.mp (rounds_truncate x).neg).symm

theorem truncate_quotient (n : ℤ) {d : ℤ} (hd : d ≠ 0) :
    truncate (n / d) = towardZero.div n d :=
  (rounds_div_iff towardZero hd).mp (rounds_truncate _)

theorem div_towardZero (n d : ℤ) : towardZero.div n d = n.tdiv d := by
  have natural (a b : ℕ) : towardZero.div a b = (a : ℤ).tdiv b := by
    obtain rfl | hb := b.eq_zero_or_pos
    · simp [div]
    · rw [div_natCast towardZero a hb, divNat_towardZero, Int.ofNat_tdiv]
  obtain ⟨a, rfl | rfl⟩ := n.eq_nat_or_neg <;> obtain ⟨b, rfl | rfl⟩ := d.eq_nat_or_neg <;>
    simp only [div_neg_left, div_neg_right, Int.neg_tdiv, Int.tdiv_neg, natural]

theorem tdiv_tdiv (n a : ℤ) (k : ℕ) : (n.tdiv a).tdiv k = n.tdiv (a * k) := by
  obtain ⟨n, rfl | rfl⟩ := n.eq_nat_or_neg <;> obtain ⟨a, rfl | rfl⟩ := a.eq_nat_or_neg <;>
    simp only [Int.neg_tdiv, Int.tdiv_neg, neg_mul, ← Int.ofNat_tdiv, ← Nat.cast_mul,
      Nat.div_div_eq_div_mul]

theorem truncate_truncate_div (x : ℚ) {k : ℕ} (hk : 0 < k) :
    truncate (truncate x / k) = truncate (x / k) := by
  have hd : (x.den : ℤ) ≠ 0 := by exact_mod_cast x.den_nz
  have hk' : (k : ℤ) ≠ 0 := by omega
  have hx : x = x.num / (x.den : ℤ) := by exact_mod_cast (Rat.num_div_den x).symm
  calc truncate (truncate x / k)
      = truncate ((x.num.tdiv x.den : ℤ) / (k : ℤ)) := by
        rw [← div_towardZero, ← truncate_quotient _ hd, ← hx, Int.cast_natCast]
    _ = x.num.tdiv (x.den * k) := by rw [truncate_quotient _ hk', div_towardZero, tdiv_tdiv]
    _ = truncate (x.num / (x.den * k : ℤ)) := by
        rw [truncate_quotient _ (mul_ne_zero hd hk'), div_towardZero]
    _ = truncate (x / k) := by
        conv_rhs => rw [hx]
        rw [Int.cast_mul, div_div, Int.cast_natCast k]

theorem truncate_truncate_div_intCast (x : ℚ) (k : ℤ) :
    truncate (truncate x / k) = truncate (x / k) := by
  have natural (j : ℕ) : truncate (truncate x / j) = truncate (x / j) := by
    obtain rfl | hj := j.eq_zero_or_pos
    · simp
    · exact truncate_truncate_div x hj
  obtain ⟨j, rfl | rfl⟩ := k.eq_nat_or_neg
  · exact natural j
  · rw [Int.cast_neg, div_neg, div_neg, truncate_neg, truncate_neg, Int.cast_natCast, natural]

end FixedDecimal.Rounding
