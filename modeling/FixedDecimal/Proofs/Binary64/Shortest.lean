import FixedDecimal.Binary64.Shortest
import FixedDecimal.Proofs.Binary64.Nearest

/-! The shortest decimal of a double. It reads back as the double, the double of the other sign has
the same one, and for a whole number up to `2 ^ 53` it is that number. -/
namespace FixedDecimal.Binary64

variable {x y : Binary64} {n d n' d' : ℕ}

/-! ## The other sign -/

theorem eq_of_toNat (h : x.bits.toNat = y.bits.toNat) : x = y := by
  cases x
  cases y
  exact congrArg Binary64.mk (UInt64.toNat_inj.mp h)

theorem isNegative_iff : x.isNegative = true ↔ 2 ^ 63 ≤ x.bits.toNat := decide_eq_true_iff

theorem toNat_neg (x : Binary64) : x.neg.bits.toNat =
    if x.isNegative then x.bits.toNat - 2 ^ 63 else x.bits.toNat + 2 ^ 63 := by
  have hlt := x.bits.toNat_lt
  have hflip : x.neg.bits.toNat = x.bits.toNat ^^^ 2 ^ 63 := UInt64.toNat_xor _ _
  have hlow : (x.bits.toNat ^^^ 2 ^ 63) % 2 ^ 63 = x.bits.toNat % 2 ^ 63 := by
    rw [Nat.xor_mod_two_pow, Nat.mod_self, Nat.xor_zero]
  have htop : (x.bits.toNat ^^^ 2 ^ 63) / 2 ^ 63 = x.bits.toNat / 2 ^ 63 ^^^ 1 := by
    rw [Nat.xor_div_two_pow, Nat.div_self (Nat.two_pow_pos 63)]
  rw [hflip]
  simp only [isNegative_iff]
  split_ifs with h
  · rw [show x.bits.toNat / 2 ^ 63 = 1 by omega, Nat.xor_self] at htop
    omega
  · rw [show x.bits.toNat / 2 ^ 63 = 0 by omega, Nat.zero_xor] at htop
    omega

theorem isNegative_neg (x : Binary64) : x.neg.isNegative = !x.isNegative := by
  have hlt := x.bits.toNat_lt
  have hneg := x.toNat_neg
  rw [Bool.eq_iff_iff, Bool.not_eq_true', ← Bool.not_eq_true, isNegative_iff, isNegative_iff, hneg]
  simp only [isNegative_iff]
  split_ifs <;> omega

theorem neg_neg (x : Binary64) : x.neg.neg = x := by
  have hlt := x.bits.toNat_lt
  refine eq_of_toNat ?_
  rw [toNat_neg, isNegative_neg, toNat_neg]
  cases h : x.isNegative
  · simp
  · have hle := isNegative_iff.mp h
    simp
    omega

theorem exponentField_neg (x : Binary64) : x.neg.exponentField = x.exponentField := by
  have hle := @isNegative_iff x
  rw [exponentField, exponentField, toNat_neg, Nat.pow_eq, Nat.pow_eq]
  split_ifs with h
  · have hle := isNegative_iff.mp h
    omega
  · omega

theorem fractionField_neg (x : Binary64) : x.neg.fractionField = x.fractionField := by
  rw [fractionField, fractionField, toNat_neg, Nat.pow_eq]
  split_ifs with h
  · have hle := isNegative_iff.mp h
    omega
  · omega

theorem isFinite_neg (x : Binary64) : x.neg.isFinite = x.isFinite := by
  rw [isFinite, isFinite, exponentField_neg]

theorem units_neg (x : Binary64) : x.neg.units = x.units := by
  rw [units, units, significand, significand, exponentField_neg, fractionField_neg]

theorem nearestBits_lt (n d : ℕ) : nearestBits n d < 2 ^ 63 :=
  (min_le_left _ _).trans_lt (by decide : infinityBits < 2 ^ 63)

theorem toNat_nearest (negative : Bool) (n d : ℕ) : (nearest negative n d).bits.toNat =
    nearestBits n d + if negative then 2 ^ 63 else 0 := by
  have hlt := nearestBits_lt n d
  refine UInt64.toNat_ofNat_of_lt' ?_
  change _ + (if negative then 2 ^ 63 else 0) < 2 ^ 64
  split_ifs <;> omega

theorem isNegative_nearest (negative : Bool) (n d : ℕ) :
    (nearest negative n d).isNegative = negative := by
  have hlt := nearestBits_lt n d
  rw [Bool.eq_iff_iff, isNegative_iff, toNat_nearest]
  cases negative
  · simpa using hlt
  · simp

theorem nearest_not (negative : Bool) (n d : ℕ) :
    nearest (!negative) n d = (nearest negative n d).neg := by
  refine eq_of_toNat ?_
  rw [toNat_neg, isNegative_nearest, toNat_nearest, toNat_nearest]
  cases negative <;> simp

theorem nearestBits_of_nearest {negative negative' : Bool}
    (h : nearest negative n d = nearest negative' n' d') : nearestBits n d = nearestBits n' d' := by
  have hsign := congrArg isNegative h
  have hbits := congrArg (fun y => y.bits.toNat) h
  rw [isNegative_nearest, isNegative_nearest] at hsign
  simp only [toNat_nearest, hsign] at hbits
  omega

/-! ## Reading back -/

namespace Scientific

def num (s : Scientific) : ℕ := s.coefficient * Nat.pow 10 s.exponent.toNat
def den (s : Scientific) : ℕ := Nat.pow 10 (-s.exponent).toNat

theorem den_pos (s : Scientific) : 0 < s.den := Nat.pow_pos (by decide)

end Scientific

open Scientific

variable {tie : Tie} {s : Scientific} {e : ℤ}

theorem readsBack_iff : readsBack x s = true ↔ nearest x.isNegative s.num s.den = x := beq_iff_eq

theorem readsBack_neg (x : Binary64) : readsBack x.neg = readsBack x := by
  funext s
  rw [Bool.eq_iff_iff, readsBack_iff, readsBack_iff, isNegative_neg, nearest_not]
  constructor
  · intro h
    rw [← neg_neg (nearest _ _ _), h, neg_neg]
  · intro h
    rw [h]

theorem shortest_neg (tie : Tie) (x : Binary64) : shortest tie x.neg = shortest tie x := by
  have hgrid (e : ℤ) : onGrid tie x.neg e = onGrid tie x e := by
    rw [onGrid, onGrid, readsBack_neg, units_neg]
  have hexp : x.neg.decimalExponent = x.decimalExponent := by
    rw [decimalExponent, decimalExponent, units_neg]
  have hexact : x.neg.exact = x.exact := by
    rw [exact, exact, units_neg]
  rw [shortest, shortest, hexp, hexact]
  simp only [hgrid]

def gridUnits (x : Binary64) (e : ℤ) : ℕ := x.units * Nat.pow 10 (-e).toNat
def gridStep (e : ℤ) : ℕ := unitsInOne * Nat.pow 10 e.toNat

/-- A grid gives one of the two points around the double; the upper one only if the double itself
is no point of the grid. -/
theorem onGrid_eq_some (h : onGrid tie x e = some s) : readsBack x s = true ∧ s.exponent = e ∧
    (s.coefficient = x.gridUnits e / gridStep e ∨
      s.coefficient = x.gridUnits e / gridStep e + 1 ∧ x.gridUnits e % gridStep e ≠ 0) := by
  rw [onGrid] at h
  split_ifs at h with hlow hup
  · obtain rfl := Option.some.inj h
    rw [Bool.and_eq_true] at hlow
    exact ⟨hlow.1, rfl, .inl rfl⟩
  · obtain rfl := Option.some.inj h
    rw [Bool.and_eq_true, bne_iff_ne] at hup
    exact ⟨hup.2, rfl, .inr ⟨rfl, hup.1⟩⟩

theorem decimalExponent_ge (x : Binary64) : -339 ≤ x.decimalExponent := by
  have hpos := List.length_pos_of_ne_nil
    (Text.digits_ne_nil (x.units * Nat.pow 10 340 / unitsInOne))
  rw [decimalExponent]
  omega

/-- The shortest decimal lies on a grid that was tried, or it is the exact value. -/
theorem shortest_cases (tie : Tie) (x : Binary64) :
    (∃ e, -356 ≤ e ∧ onGrid tie x e = some (shortest tie x)) ∨ shortest tie x = x.exact := by
  have hexp := x.decimalExponent_ge
  rw [shortest]
  cases hfind : (List.range 18).findSome? fun (count : ℕ) =>
      onGrid tie x (x.decimalExponent - count) with
  | none => exact .inr rfl
  | some s =>
    obtain ⟨count, hcount, hs⟩ := List.exists_of_findSome?_eq_some hfind
    have hlt := List.mem_range.mp hcount
    exact .inl ⟨_, by omega, hs⟩

theorem exponent_shortest_ge (tie : Tie) (x : Binary64) : -1074 ≤ (shortest tie x).exponent := by
  obtain ⟨e, he, hgrid⟩ | hexact := shortest_cases tie x
  · rw [(onGrid_eq_some hgrid).2.1]
    omega
  · rw [hexact]
    exact le_rfl

theorem exact_scaled (x : Binary64) : x.exact.num * unitsInOne = x.units * x.exact.den := by
  have hten : Nat.pow 5 1074 * unitsInOne = Nat.pow 10 1074 := by decide +kernel
  have hnum : x.exact.num = x.units * Nat.pow 5 1074 := Nat.mul_one _
  have hden : (-x.exact.exponent).toNat = 1074 := rfl
  rw [hnum, den, hden, mul_assoc, hten]

theorem readsBack_exact (hx : x.isFinite = true) : readsBack x x.exact = true := by
  rw [readsBack_iff, nearest_congr _ x.exact.den_pos unitsInOne_pos x.exact_scaled]
  exact nearest_units hx

theorem readsBack_shortest (tie : Tie) (hx : x.isFinite = true) :
    readsBack x (shortest tie x) = true := by
  obtain ⟨e, -, hgrid⟩ | hexact := shortest_cases tie x
  · exact (onGrid_eq_some hgrid).1
  · rw [hexact]
    exact readsBack_exact hx

/-! ## Whole numbers -/

theorem gridStep_of_nonpos (he : e ≤ 0) : gridStep e = unitsInOne := by
  rw [gridStep, Int.toNat_of_nonpos he, Nat.pow_eq, pow_zero, mul_one]

theorem gridUnits_eq (hunits : x.units = n * unitsInOne) :
    x.gridUnits s.exponent = n * s.den * unitsInOne := by
  rw [gridUnits, hunits, den, mul_right_comm]

theorem num_of_nonpos (he : s.exponent ≤ 0) : s.num = s.coefficient := by
  rw [num, Int.toNat_of_nonpos he, Nat.pow_eq, pow_zero, mul_one]

section
variable (hx : x.isFinite = true) (hunits : x.units = n * unitsInOne) (hn : n ≤ 2 ^ 53)
include hx hunits

theorem nearestBits_of_readsBack (h : readsBack x s = true) :
    nearestBits s.num s.den = nearestBits n 1 := by
  have hback := (readsBack_iff.mp h).trans (nearest_units hx).symm
  rw [nearestBits_of_nearest hback, hunits]
  exact nearestBits_congr unitsInOne_pos one_pos (mul_one _)

include hn

theorem onGrid_whole (h : onGrid tie x e = some s) : s.num = n * s.den := by
  obtain ⟨hback, rfl, hs⟩ := onGrid_eq_some h
  have hbits := nearestBits_of_readsBack hx hunits hback
  rcases le_or_gt s.exponent 0 with he | he
  · -- the double is a point of the grid
    rw [gridStep_of_nonpos he, gridUnits_eq hunits, Nat.mul_div_cancel _ unitsInOne_pos,
      Nat.mul_mod_left] at hs
    obtain hlow | ⟨-, hrest⟩ := hs
    · rw [num_of_nonpos he, hlow]
    · exact absurd rfl hrest
  · -- every point of the grid is a multiple of ten
    obtain ⟨k, hk⟩ : ∃ k, s.exponent.toNat = k + 1 := ⟨s.exponent.toNat - 1, by omega⟩
    have hden : s.den = 1 := by
      rw [den, Int.toNat_of_nonpos (by omega), Nat.pow_eq, pow_zero]
    have hten : 10 ∣ s.num := by
      rw [num, hk, Nat.pow_eq, pow_succ, ← mul_assoc]
      exact Nat.dvd_mul_left _ _
    rw [hden] at hbits ⊢
    rw [mul_one]
    exact eq_of_ten_dvd hn hten hbits

theorem shortest_whole (tie : Tie) : (shortest tie x).num = n * (shortest tie x).den := by
  obtain ⟨e, -, hgrid⟩ | hexact := shortest_cases tie x
  · exact onGrid_whole hx hunits hn hgrid
  · have hscaled := x.exact_scaled
    rw [hunits, mul_right_comm] at hscaled
    rw [hexact]
    exact Nat.eq_of_mul_eq_mul_right unitsInOne_pos hscaled

end

end FixedDecimal.Binary64
