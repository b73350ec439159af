import FixedDecimal.Proofs.Rounding.Truncation

/-! Rounding to nearest what was cut off before. Away from ties the two nearest modes agree. A cut
never takes a rational over a point midway between two integers, but it may bring it there. -/
namespace FixedDecimal.Rounding

theorem abs_sub_truncate_lt (x : ℚ) : |x - truncate x| < 1 := by
  rw [truncate, abs_lt]
  split_ifs with h
  · have hl := Int.floor_le x
    have hu := Int.lt_floor_add_one x
    constructor <;> linarith
  · have hl := Int.le_ceil x
    have hu := Int.ceil_lt_add_one x
    constructor <;> linarith

def Tie (x : ℚ) : Prop := ∃ m : ℤ, x = m + 1 / 2

theorem tie_of_abs_sub {x : ℚ} {n : ℤ} (h : |x - n| = 1 / 2) : Tie x := by
  obtain h | h := (abs_eq (by norm_num)).mp h
  · exact ⟨n, by linarith⟩
  · exact ⟨n - 1, by push_cast; linarith⟩

/-- A tie is half a unit away from both of its neighbours. -/
theorem Tie.abs_sub {x : ℚ} (h : Tie x) {n : ℤ} (hn : |x - n| < 1) : |x - n| = 1 / 2 := by
  obtain ⟨m, rfl⟩ := h
  rw [abs_lt] at hn
  have hl : ((m - 1 : ℤ) : ℚ) < n := by push_cast; linarith
  have hu : (n : ℚ) < (m + 2 : ℤ) := by push_cast; linarith
  rw [Int.cast_lt] at hl hu
  obtain rfl | rfl : n = m ∨ n = m + 1 := by omega
  · exact abs_midway_left n
  · exact abs_midway_right m

theorem Tie.abs_ne {x : ℚ} (h : Tie x) (n : ℤ) : |x| ≠ |(n : ℚ)| := by
  intro heq
  obtain rfl | rfl := abs_eq_abs.mp heq
  · have hn := h.abs_sub (n := n) (by simp)
    norm_num at hn
  · have hn := h.abs_sub (n := -n) (by simp)
    norm_num at hn

theorem Tie.abs_sub_of_le {x : ℚ} (h : Tie x) {n : ℤ} (hn : |x - n| ≤ 1 / 2) : |x - n| = 1 / 2 :=
  h.abs_sub (hn.trans_lt (by norm_num))

theorem tie_iff {x : ℚ} : Tie x ↔ |x - truncate x| = 1 / 2 :=
  ⟨fun h => h.abs_sub (abs_sub_truncate_lt x), tie_of_abs_sub⟩

theorem rounds_halfEven_iff {x : ℚ} (h : ¬Tie x) {n : ℤ} :
    halfEven.Rounds x n ↔ halfAwayFromZero.Rounds x n := by
  have hne : |x - n| ≠ 1 / 2 := fun he => h (tie_of_abs_sub he)
  simp only [Rounds, hne, false_implies]

theorem abs_sub_le_one {x : ℚ} {m n : ℤ} (hm : |x - m| ≤ 1 / 2) (hn : |x - n| ≤ 1 / 2) :
    |m - n| ≤ 1 := by
  rw [abs_le] at hm hn
  have hl : ((-1 : ℤ) : ℚ) ≤ (m - n : ℤ) := by push_cast; linarith
  have hu : ((m - n : ℤ) : ℚ) ≤ (1 : ℤ) := by push_cast; linarith
  exact abs_le.mpr ⟨by exact_mod_cast hl, by exact_mod_cast hu⟩

/-! ## Rounding after a cut -/

section
variable {x : ℚ} {n : ℤ}

theorem rounds_halfAway_iff_of_nonneg (hx : 0 ≤ x) :
    halfAwayFromZero.Rounds x n ↔ (n : ℚ) - 1 / 2 ≤ x ∧ x < n + 1 / 2 := by
  rw [Rounds, abs_le]
  constructor
  · intro h
    obtain ⟨hd, haway⟩ := h
    refine ⟨by linarith, lt_of_le_of_ne (by linarith) fun heq => ?_⟩
    have hn : (-1 : ℤ) < n := by exact_mod_cast (by linarith : (-1 : ℚ) < n)
    have hn' : (0 : ℚ) ≤ n := by exact_mod_cast (by omega : 0 ≤ n)
    have hle := haway (by rw [heq, abs_midway_left])
    rw [abs_of_nonneg hx, abs_of_nonneg hn'] at hle
    linarith
  · intro h
    obtain ⟨hl, hu⟩ := h
    refine ⟨⟨by linarith, by linarith⟩, fun htie => ?_⟩
    obtain heq | heq := (abs_eq (by norm_num)).mp htie
    · linarith
    · rw [abs_of_nonneg hx]
      exact le_trans (by linarith) (le_abs_self _)

/-- Both ends of what rounds to `n` are whole before the division, so a floor stays between them. -/
theorem rounds_halfAway_floor (hx : 0 ≤ x) {k : ℕ} (hk : 0 < k)
    (h : halfAwayFromZero.Rounds (⌊x⌋ / (2 * k : ℕ)) n) :
    halfAwayFromZero.Rounds (x / (2 * k : ℕ)) n := by
  have hk' : (0 : ℚ) < (2 * k : ℕ) := by exact_mod_cast Nat.mul_pos two_pos hk
  have hf : (0 : ℚ) ≤ ⌊x⌋ := by exact_mod_cast Int.floor_nonneg.mpr hx
  rw [rounds_halfAway_iff_of_nonneg (div_nonneg hf hk'.le), le_div_iff₀ hk', div_lt_iff₀ hk'] at h
  rw [rounds_halfAway_iff_of_nonneg (div_nonneg hx hk'.le), le_div_iff₀ hk', div_lt_iff₀ hk']
  have hl : ((n : ℚ) - 1 / 2) * (2 * k : ℕ) = ((2 * n - 1) * k : ℤ) := by push_cast; ring
  have hu : ((n : ℚ) + 1 / 2) * (2 * k : ℕ) = ((2 * n + 1) * k : ℤ) := by push_cast; ring
  rw [hl, hu, Int.cast_le, Int.cast_lt, Int.le_floor, Int.floor_lt] at h
  rwa [hl, hu]

theorem rounds_halfAway_truncate {k : ℕ} (hk : 0 < k)
    (h : halfAwayFromZero.Rounds (truncate x / (2 * k : ℕ)) n) :
    halfAwayFromZero.Rounds (x / (2 * k : ℕ)) n := by
  rcases le_total 0 x with hx | hx
  · rw [truncate, if_pos hx] at h
    exact rounds_halfAway_floor hx hk h
  · have hneg : 0 ≤ -x := neg_nonneg.mpr hx
    have hfloor : (⌊-x⌋ : ℚ) = -truncate x := by
      rw [← Int.cast_neg, ← truncate_neg, truncate, if_pos hneg]
    have hr := rounds_halfAway_floor (n := -n) hneg hk (by rw [hfloor, neg_div]; exact h.neg)
    rw [neg_div] at hr
    simpa only [neg_neg] using hr.neg

/-- What is a tie after division by an even number was whole before it. -/
theorem truncate_eq_of_tie {k : ℕ} (hk : 0 < k) (h : Tie (x / (2 * k : ℕ))) :
    truncate x = x := by
  obtain ⟨m, hm⟩ := h
  have hk' : ((2 * k : ℕ) : ℚ) ≠ 0 := by exact_mod_cast (Nat.mul_pos two_pos hk).ne'
  have hx : x = ((2 * m + 1) * k : ℤ) := by
    rw [(div_eq_iff hk').mp hm]
    push_cast
    ring
  rw [hx, truncate_intCast]

end

end FixedDecimal.Rounding
