import FixedDecimal.Proofs.Rounding.Exact
import FixedDecimal.Rounding.Quotient

/-! Quotients of integers, told without division: in each mode distances, signs and parity single
out one integer. It belongs to the rational alone, whatever integers make it up. -/
namespace FixedDecimal.Rounding

def IsQuotient : Rounding → ℤ → ℤ → ℤ → Prop
  | .towardZero, n, d, q =>
    |q * d| ≤ |n| ∧ |n| < |q * d| + |d| ∧ (q = 0 ∨ q.sign = n.sign * d.sign)
  | .halfAwayFromZero, n, d, q =>
    2 * |n - q * d| ≤ |d| ∧ (2 * |n - q * d| = |d| → |n| ≤ |q * d|)
  | .halfEven, n, d, q => 2 * |n - q * d| ≤ |d| ∧ (2 * |n - q * d| = |d| → Even q)

/-- A rounded quotient is zero or has the sign of the exact one. -/
theorem sign_div (mode : Rounding) (n d : ℤ) :
    mode.div n d = 0 ∨ (mode.div n d).sign = n.sign * d.sign := by
  rw [div]
  cases mode.divNat n.natAbs d.natAbs with
  | zero => exact .inl (mul_zero _)
  | succ k =>
    right
    rw [Int.sign_mul, Int.sign_natCast_of_ne_zero k.succ_ne_zero, mul_one, Int.sign_mul,
      Int.sign_sign, Int.sign_sign]

section
variable {mode : Rounding} {n d q : ℤ}

theorem quotient_mul_nonneg (hd : d ≠ 0) (h : q = 0 ∨ q.sign = n.sign * d.sign) :
    0 ≤ (n : ℚ) / d * q := by
  have hs : 0 ≤ (n * d * q).sign := by
    rw [Int.sign_mul, Int.sign_mul]
    obtain rfl | h := h
    · simp
    · rw [h]
      exact mul_self_nonneg _
  have hn : (0 : ℚ) ≤ n * d * q := by exact_mod_cast Int.sign_nonneg_iff.mp hs
  have hd' : (d : ℚ) ≠ 0 := by exact_mod_cast hd
  calc (0 : ℚ) ≤ n * d * q / (d * d) := div_nonneg hn (mul_self_nonneg _)
    _ = n / d * q := by field_simp

theorem IsQuotient.rounds (hd : d ≠ 0) (h : mode.IsQuotient n d q) : mode.Rounds (n / d) q := by
  cases mode with
  | towardZero =>
    obtain ⟨hle, hlt, hsign⟩ := h
    exact ⟨quotient_mul_nonneg hd hsign, (abs_le_abs_quotient hd q).mpr hle,
      (abs_quotient_lt hd q).mpr hlt⟩
  | halfAwayFromZero =>
    rwa [Rounds, abs_quotient_sub_le_half hd, abs_quotient_sub_eq_half hd, abs_quotient_le_abs hd]
  | halfEven => rwa [Rounds, abs_quotient_sub_le_half hd, abs_quotient_sub_eq_half hd]

theorem isQuotient_div (mode : Rounding) (n : ℤ) (hd : d ≠ 0) :
    mode.IsQuotient n d (mode.div n d) := by
  have h := mode.rounds_div n hd
  cases mode with
  | towardZero =>
    obtain ⟨-, hle, hlt⟩ := h
    exact ⟨(abs_le_abs_quotient hd _).mp hle, (abs_quotient_lt hd _).mp hlt,
      sign_div .towardZero n d⟩
  | halfAwayFromZero =>
    rwa [Rounds, abs_quotient_sub_le_half hd, abs_quotient_sub_eq_half hd,
      abs_quotient_le_abs hd] at h
  | halfEven => rwa [Rounds, abs_quotient_sub_le_half hd, abs_quotient_sub_eq_half hd] at h

theorem isQuotient_iff (hd : d ≠ 0) : mode.IsQuotient n d q ↔ q = mode.div n d :=
  ⟨fun h => (rounds_div_iff mode hd).mp (h.rounds hd), fun h => h ▸ mode.isQuotient_div n hd⟩

theorem div_congr (mode : Rounding) {n' d' : ℤ} (hd : d ≠ 0) (hd' : d' ≠ 0)
    (h : (n : ℚ) / d = n' / d') : mode.div n' d' = mode.div n d :=
  (rounds_div_iff mode hd).mp (h ▸ mode.rounds_div n' hd')

theorem div_mul_left (mode : Rounding) (n : ℤ) (hd : d ≠ 0) {k : ℤ} (hk : k ≠ 0) :
    mode.div (k * n) (k * d) = mode.div n d := by
  have hk' : (k : ℚ) ≠ 0 := by exact_mod_cast hk
  refine mode.div_congr hd (mul_ne_zero hk hd) ?_
  rw [Int.cast_mul, Int.cast_mul, mul_div_mul_left _ _ hk']

end

/-- What division of integers answers, in every mode and for all signs. -/
theorem quotient_characterized (n d : ℤ) :
    (∀ (mode : Rounding) e, mode.quotient n d = .error e ↔ d = 0 ∧ e = .divisionByZero) ∧
    (d ≠ 0 → ∀ mode : Rounding, ∃ q, mode.quotient n d = .ok q ∧
      (∀ k, mode.IsQuotient n d k ↔ k = q) ∧
      (∀ n' d' : ℤ, d' ≠ 0 → (n : ℚ) / d = n' / d' → mode.quotient n' d' = .ok q) ∧
      (∀ k ≠ 0, mode.quotient (k * n) (k * d) = .ok q) ∧
      mode.quotient (-n) d = .ok (-q) ∧ mode.quotient n (-d) = .ok (-q) ∧
      (q = 0 ∨ q.sign = n.sign * d.sign)) := by
  refine ⟨fun mode e => quotient_eq_error_iff, ?_⟩
  intro hd mode
  refine ⟨mode.div n d, quotient_of_ne_zero mode n hd, fun k => isQuotient_iff hd, ?_, ?_, ?_, ?_,
    mode.sign_div n d⟩
  · intro n' d' hd' h
    rw [quotient_of_ne_zero mode n' hd', mode.div_congr hd hd' h]
  · intro k hk
    rw [quotient_of_ne_zero mode _ (mul_ne_zero hk hd), mode.div_mul_left n hd hk]
  · rw [quotient_of_ne_zero mode _ hd, div_neg_left]
  · rw [quotient_of_ne_zero mode n (neg_ne_zero.mpr hd), div_neg_right]

/-- A tie between `-2` and `-3`: only one mode leaves the even neighbour. -/
theorem quotient_of_negative_tie :
    towardZero.quotient (-25) 10 = .ok (-2) ∧ halfAwayFromZero.quotient (-25) 10 = .ok (-3) ∧
    halfEven.quotient (-25) 10 = .ok (-2) ∧ halfEven.IsQuotient (-25) 10 (-2) ∧
    ¬halfEven.IsQuotient (-25) 10 (-3) ∧ halfAwayFromZero.quotient 5 (-2) = .ok (-3) ∧
    halfAwayFromZero.quotient 25 10 = .ok 3 := by
  have hten : (10 : ℤ) ≠ 0 := by decide
  obtain ⟨q, hq, honly, -, -, -, -, -⟩ := (quotient_characterized (-25) 10).2 hten .halfEven
  obtain ⟨a, ha, -, hsame, -, hneg, -, -⟩ :=
    (quotient_characterized (-25) 10).2 hten .halfAwayFromZero
  have heven : halfEven.quotient (-25) 10 = .ok (-2) := rfl
  have haway : halfAwayFromZero.quotient (-25) 10 = .ok (-3) := rfl
  obtain rfl := Except.ok.inj (heven.symm.trans hq)
  obtain rfl := Except.ok.inj (haway.symm.trans ha)
  have hnot : ¬halfEven.IsQuotient (-25) 10 (-3) := fun h => absurd ((honly _).mp h) (by decide)
  refine ⟨rfl, haway, heven, (honly _).mpr rfl, hnot, ?_, ?_⟩
  · exact hsame 5 (-2) (by decide) (by norm_num)
  · exact hneg

end FixedDecimal.Rounding
