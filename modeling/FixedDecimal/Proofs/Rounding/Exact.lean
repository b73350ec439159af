import FixedDecimal.Rounding.Basic
import Mathlib.Data.Rat.Floor
import Mathlib.Tactic.FieldSimp
import Mathlib.Tactic.Linarith

/-! What it means to round a rational, said by distances and not by division. In each mode a
rational has one rounded integer, and dividing integers gives it for their exact quotient. -/
namespace FixedDecimal.Rounding

def Rounds : Rounding → ℚ → ℤ → Prop
  | .towardZero, x, n => 0 ≤ x * n ∧ |(n : ℚ)| ≤ |x| ∧ |x| < |(n : ℚ)| + 1
  | .halfAwayFromZero, x, n => |x - n| ≤ 1 / 2 ∧ (|x - n| = 1 / 2 → |x| ≤ |(n : ℚ)|)
  | .halfEven, x, n => |x - n| ≤ 1 / 2 ∧ (|x - n| = 1 / 2 → Even n)

theorem Rounds.neg {mode : Rounding} {x : ℚ} {n : ℤ} (h : mode.Rounds x n) :
    mode.Rounds (-x) (-n) := by
  have hd : |-x - -(n : ℚ)| = |x - n| := by
    rw [← abs_neg (x - n), neg_sub, sub_neg_eq_add, neg_add_eq_sub]
  cases mode with
  | towardZero => simpa only [Rounds, Int.cast_neg, neg_mul_neg, abs_neg] using h
  | halfAwayFromZero => simpa only [Rounds, Int.cast_neg, hd, abs_neg] using h
  | halfEven => simpa only [Rounds, Int.cast_neg, hd, even_neg] using h

theorem rounds_intCast (mode : Rounding) (n : ℤ) : mode.Rounds n n := by
  cases mode <;> simp [Rounds, mul_self_nonneg]

/-- Nearest integers in the wrong order leave one rational only, midway between them. -/
theorem midway {x y : ℚ} {m n : ℤ} (hm : |x - m| ≤ 1 / 2) (hn : |y - n| ≤ 1 / 2) (hxy : x ≤ y)
    (h : n < m) : m = n + 1 ∧ x = n + 1 / 2 ∧ y = n + 1 / 2 := by
  rw [abs_le] at hm hn
  have hle : (m : ℚ) ≤ (n + 1 : ℤ) := by push_cast; linarith
  have hs : m = n + 1 := le_antisymm (by exact_mod_cast hle) h
  rw [hs] at hm
  push_cast at hm
  exact ⟨hs, by linarith, by linarith⟩

theorem abs_midway_left (m : ℤ) : |(m : ℚ) + 1 / 2 - m| = 1 / 2 := by
  rw [add_sub_cancel_left]; norm_num

theorem abs_midway_right (m : ℤ) : |(m : ℚ) + 1 / 2 - (m + 1 : ℤ)| = 1 / 2 := by
  push_cast
  rw [add_sub_add_left_eq_sub]; norm_num [abs_div]

/-- Midway, one of the two neighbours is nearer to zero. -/
theorem not_both_away (m : ℤ) :
    ¬(|(m : ℚ) + 1 / 2| ≤ |(m : ℚ)| ∧ |(m : ℚ) + 1 / 2| ≤ |((m + 1 : ℤ) : ℚ)|) := by
  intro h
  obtain ⟨hl, hr⟩ := h
  rcases le_or_gt 0 m with h | h
  · have h' : (0 : ℚ) ≤ m := by exact_mod_cast h
    rw [abs_of_nonneg h', abs_le] at hl
    linarith
  · have h' : ((m + 1 : ℤ) : ℚ) ≤ 0 := by exact_mod_cast h
    rw [abs_of_nonpos h', abs_le] at hr
    push_cast at hr
    linarith

theorem Rounds.le_of_pos {x : ℚ} {n : ℤ} (h : towardZero.Rounds x n) (hn : 0 < n) : n ≤ x := by
  have hn' : (0 : ℚ) < n := by exact_mod_cast hn
  have hle := h.2.1
  rwa [abs_of_pos hn', abs_of_nonneg (nonneg_of_mul_nonneg_left h.1 hn')] at hle

theorem Rounds.lt_add_one {x : ℚ} {n : ℤ} (h : towardZero.Rounds x n) (hn : 0 ≤ n) :
    x < n + 1 := by
  have hn' : (0 : ℚ) ≤ n := by exact_mod_cast hn
  have hlt := h.2.2
  rw [abs_of_nonneg hn'] at hlt
  exact (le_abs_self x).trans_lt hlt

theorem Rounds.le_of_le_of_pos {x y : ℚ} {m n : ℤ} (hm : towardZero.Rounds x m)
    (hn : towardZero.Rounds y n) (hxy : x ≤ y) (hpos : 0 < m) : m ≤ n := by
  have hpos' : (0 : ℚ) < m := by exact_mod_cast hpos
  have hx := hm.le_of_pos hpos
  have hnonneg : 0 ≤ n := by
    by_contra hneg
    have hneg' : ((-n : ℤ) : ℚ) > 0 := by exact_mod_cast (by omega : 0 < -n)
    have hy := hn.neg.le_of_pos (by omega)
    linarith
  have hy := hn.lt_add_one hnonneg
  have hlt : (m : ℚ) < (n + 1 : ℤ) := by push_cast; linarith
  exact Int.lt_add_one_iff.mp (by exact_mod_cast hlt)

/-- Rounding keeps the order of rationals. -/
theorem Rounds.mono {mode : Rounding} {x y : ℚ} {m n : ℤ} (hm : mode.Rounds x m)
    (hn : mode.Rounds y n) (hxy : x ≤ y) : m ≤ n := by
  by_contra h
  rw [not_le] at h
  cases mode with
  | towardZero =>
    by_cases hpos : 0 < m
    · exact absurd (hm.le_of_le_of_pos hn hxy hpos) (not_le.mpr h)
    · have hle := hn.neg.le_of_le_of_pos hm.neg (neg_le_neg hxy) (by omega)
      omega
  | halfAwayFromZero =>
    obtain ⟨rfl, rfl, rfl⟩ := midway hm.1 hn.1 hxy h
    exact not_both_away n ⟨hn.2 (abs_midway_left n), hm.2 (abs_midway_right n)⟩
  | halfEven =>
    obtain ⟨rfl, rfl, rfl⟩ := midway hm.1 hn.1 hxy h
    exact Int.even_add_one.mp (hm.2 (abs_midway_right n)) (hn.2 (abs_midway_left n))

theorem Rounds.unique {mode : Rounding} {x : ℚ} {m n : ℤ} (hm : mode.Rounds x m)
    (hn : mode.Rounds x n) : m = n :=
  le_antisymm (hm.mono hn le_rfl) (hn.mono hm le_rfl)

/-! ## Quotients of integers: the distances without division -/

section quotient
variable {n d : ℤ} (hd : d ≠ 0) (q : ℤ)
include hd

theorem abs_cast_pos : (0 : ℚ) < |(d : ℚ)| := abs_pos.mpr (by exact_mod_cast hd)

theorem abs_quotient_sub : |(n : ℚ) / d - q| = |((n - q * d : ℤ) : ℚ)| / |(d : ℚ)| := by
  have hd' : (d : ℚ) ≠ 0 := by exact_mod_cast hd
  rw [← abs_div, Int.cast_sub, Int.cast_mul, sub_div, mul_div_cancel_right₀ _ hd']

theorem abs_quotient_sub_le_half : |(n : ℚ) / d - q| ≤ 1 / 2 ↔ 2 * |n - q * d| ≤ |d| := by
  rw [abs_quotient_sub hd, div_le_div_iff₀ (abs_cast_pos hd) two_pos, one_mul, mul_comm]
  exact_mod_cast Iff.rfl

theorem abs_quotient_sub_eq_half : |(n : ℚ) / d - q| = 1 / 2 ↔ 2 * |n - q * d| = |d| := by
  rw [abs_quotient_sub hd, div_eq_div_iff (abs_cast_pos hd).ne' two_ne_zero, one_mul, mul_comm]
  exact_mod_cast Iff.rfl

theorem abs_le_abs_quotient : |(q : ℚ)| ≤ |(n : ℚ) / d| ↔ |q * d| ≤ |n| := by
  rw [abs_div, le_div_iff₀ (abs_cast_pos hd), ← abs_mul]
  exact_mod_cast Iff.rfl

theorem abs_quotient_le_abs : |(n : ℚ) / d| ≤ |(q : ℚ)| ↔ |n| ≤ |q * d| := by
  rw [abs_div, div_le_iff₀ (abs_cast_pos hd), ← abs_mul]
  exact_mod_cast Iff.rfl

theorem abs_quotient_lt : |(n : ℚ) / d| < |(q : ℚ)| + 1 ↔ |n| < |q * d| + |d| := by
  rw [abs_div, div_lt_iff₀ (abs_cast_pos hd), add_one_mul, ← abs_mul]
  exact_mod_cast Iff.rfl

end quotient

/-! ## Division of natural numbers: the remainder stays, or what it lacks is added -/

theorem abs_sub_stay (n d : ℕ) : |(n : ℤ) - (n / d : ℕ) * d| = (n % d : ℕ) := by
  have hdm := Nat.div_add_mod' n d
  have hs : (n : ℤ) - (n / d : ℕ) * d = (n % d : ℕ) := by
    rw [← Nat.cast_mul]; omega
  rw [hs, Nat.abs_cast]

theorem abs_sub_move (n : ℕ) {d : ℕ} (hd : 0 < d) :
    |(n : ℤ) - (n / d + 1 : ℕ) * d| = (d - n % d : ℕ) := by
  have hdm := Nat.div_add_mod' n d
  have hr := Nat.mod_lt n hd
  have hs : (n : ℤ) - (n / d + 1 : ℕ) * d = -(d - n % d : ℕ) := by
    rw [← Nat.cast_mul, add_one_mul]; omega
  rw [hs, abs_neg, Nat.abs_cast]

theorem rounds_divNat (mode : Rounding) (n : ℕ) {d : ℕ} (hd : 0 < d) :
    mode.Rounds ((n : ℤ) / (d : ℤ)) (mode.divNat n d) := by
  have hz : (d : ℤ) ≠ 0 := by omega
  have hdm := Nat.div_add_mod' n d
  have hr := Nat.mod_lt n hd
  cases mode with
  | towardZero =>
    rw [Rounds, abs_le_abs_quotient hz, abs_quotient_lt hz, divNat_towardZero]
    simp only [← Nat.cast_mul, Nat.abs_cast]
    exact ⟨by positivity, by omega, by omega⟩
  | halfAwayFromZero =>
    rw [Rounds, abs_quotient_sub_le_half hz, abs_quotient_sub_eq_half hz, abs_quotient_le_abs hz,
      divNat, movesAway]
    by_cases h : d ≤ 2 * (n % d)
    · rw [decide_eq_true h, Bool.toNat_true, abs_sub_move n hd]
      simp only [← Nat.cast_mul, Nat.abs_cast, add_one_mul]
      omega
    · rw [decide_eq_false h, Bool.toNat_false, Nat.add_zero, abs_sub_stay, Nat.abs_cast]
      omega
  | halfEven =>
    rw [Rounds, abs_quotient_sub_le_half hz, abs_quotient_sub_eq_half hz, divNat,
      Int.even_coe_nat, Nat.even_iff]
    by_cases h : halfEven.movesAway (n / d) (n % d) d
    · rw [h, Bool.toNat_true, abs_sub_move n hd, Nat.abs_cast]
      simp only [movesAway, Bool.or_eq_true, Bool.and_eq_true, decide_eq_true_eq, beq_iff_eq] at h
      omega
    · rw [Bool.not_eq_true] at h
      rw [h, Bool.toNat_false, Nat.add_zero, abs_sub_stay, Nat.abs_cast]
      simp only [movesAway, Bool.or_eq_false_iff, Bool.and_eq_false_iff, decide_eq_false_iff_not,
        beq_eq_false_iff_ne] at h
      omega

/-! ## Division of integers -/

theorem div_natCast (mode : Rounding) (n : ℕ) {d : ℕ} (hd : 0 < d) :
    mode.div n d = mode.divNat n d := by
  rw [div, Int.natAbs_natCast, Int.natAbs_natCast, Int.sign_natCast_of_ne_zero hd.ne', mul_one]
  cases n with
  | zero =>
    have h := mode.divNat_mul_self 0 hd
    rw [zero_mul] at h
    simp [h]
  | succ n => rw [Int.sign_natCast_of_ne_zero n.succ_ne_zero, one_mul]

theorem rounds_div_natCast (mode : Rounding) (n : ℤ) {d : ℕ} (hd : 0 < d) :
    mode.Rounds (n / (d : ℤ)) (mode.div n d) := by
  have positive (a : ℕ) : mode.Rounds ((a : ℤ) / (d : ℤ)) (mode.div a d) := by
    rw [div_natCast mode a hd]
    exact rounds_divNat mode a hd
  obtain ⟨a, rfl | rfl⟩ := n.eq_nat_or_neg
  · exact positive a
  · rw [div_neg_left, Int.cast_neg, neg_div]
    exact (positive a).neg

theorem rounds_div (mode : Rounding) (n : ℤ) {d : ℤ} (hd : d ≠ 0) :
    mode.Rounds (n / d) (mode.div n d) := by
  obtain ⟨b, rfl | rfl⟩ := d.eq_nat_or_neg
  · exact rounds_div_natCast mode n (by omega)
  · rw [div_neg_right, Int.cast_neg, div_neg]
    exact (rounds_div_natCast mode n (by omega)).neg

theorem rounds_div_iff (mode : Rounding) {n d : ℤ} (hd : d ≠ 0) {q : ℤ} :
    mode.Rounds (n / d) q ↔ q = mode.div n d :=
  ⟨fun h => h.unique (rounds_div mode n hd), fun h => h ▸ rounds_div mode n hd⟩

end FixedDecimal.Rounding
