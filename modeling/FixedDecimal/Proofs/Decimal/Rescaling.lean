import FixedDecimal.Amount
import FixedDecimal.Proofs.Decimal.Value
import Mathlib.Data.List.Induction
import Mathlib.Order.Compare
import Mathlib.Tactic.GCongr

/-! Rescaling sees the number alone and never the digits it was given with. It keeps the order of
numbers in every mode, and a chain of cuts is one cut at the coarsest precision on the way. -/
namespace FixedDecimal

namespace Decimal

theorem rescaleWith_mono {x y : Decimal} (h : x.value ≤ y.value) (precision : Precision)
    (mode : Rounding) :
    (x.rescaleWith precision mode).magnitude ≤ (y.rescaleWith precision mode).magnitude := by
  have hscaled : x.value * 10 ^ precision.toNat ≤ y.value * 10 ^ precision.toNat := by gcongr
  exact (x.rounds_rescaleWith precision mode).mono (y.rounds_rescaleWith precision mode) hscaled

theorem rescaleWith_congr {x y : Decimal} (h : x.value = y.value) (precision : Precision)
    (mode : Rounding) : x.rescaleWith precision mode = y.rescaleWith precision mode := by
  have hle := rescaleWith_mono h.le precision mode
  have hge := rescaleWith_mono h.ge precision mode
  refine Decimal.ext (le_antisymm hle hge) ?_
  rw [precision_rescaleWith, precision_rescaleWith]

theorem precision_rescale (x : Decimal) (precision : Precision) :
    (x.rescale precision).precision = precision :=
  x.precision_rescaleWith precision .towardZero

/-- Widening is exact. -/
theorem value_rescaleWith_of_le (x : Decimal) {precision : Precision}
    (h : x.precision ≤ precision) (mode : Rounding) :
    (x.rescaleWith precision mode).value = x.value := by
  rw [rescaleWith, if_neg (UInt32.not_lt.mpr h), value, value, ← toNat_add_toNat_sub h,
    Int.cast_mul, cast_pow10, pow_add]
  field_simp

theorem value_rescale_of_le (x : Decimal) {precision : Precision} (h : x.precision ≤ precision) :
    (x.rescale precision).value = x.value :=
  x.value_rescaleWith_of_le h .towardZero

/-! ## Chains of cuts -/

theorem value_rescale_cut (x : ℚ) (p q : Precision) :
    ((cut x p).rescale q).value = (cut x (min p q)).value := by
  rw [Std.min_eq_if]
  split_ifs with h
  · exact (cut x p).value_rescale_of_le h
  · rw [rescale_cut x (UInt32.le_of_lt (UInt32.not_le.mp h))]

def coarsest (precision : Precision) (chain : List Precision) : Precision :=
  chain.foldl min precision

theorem coarsest_concat (p : Precision) (chain : List Precision) (q : Precision) :
    coarsest p (chain ++ [q]) = min (coarsest p chain) q :=
  List.foldl_concat ..

theorem coarsest_eq_iff {p m : Precision} {chain : List Precision} :
    coarsest p chain = m ↔ m ∈ p :: chain ∧ ∀ q ∈ p :: chain, m ≤ q := by
  rw [← List.min?_eq_some_iff, List.min?_cons', Option.some_inj, coarsest]

theorem coarsest_le {p q : Precision} {chain : List Precision} (h : q ∈ p :: chain) :
    coarsest p chain ≤ q :=
  (coarsest_eq_iff.mp rfl).2 q h

/-- Whatever a chain widens again, only the digits of its coarsest precision are left. -/
theorem value_foldl_rescale (x : Decimal) (chain : List Precision) :
    (chain.foldl rescale x).value = (cut x.value (coarsest x.precision chain)).value := by
  induction chain using List.reverseRecOn with
  | nil => rw [List.foldl_nil, coarsest, List.foldl_nil, cut_value]
  | append_singleton chain q ih =>
    rw [List.foldl_concat, rescale, rescaleWith_congr ih, coarsest_concat]
    exact value_rescale_cut x.value (coarsest x.precision chain) q

theorem foldl_rescale (x : Decimal) (chain : List Precision) (last : Precision) :
    (chain ++ [last]).foldl rescale x =
      (x.rescale (coarsest x.precision (chain ++ [last]))).rescale last := by
  have hle : (x.rescale (coarsest x.precision (chain ++ [last]))).precision ≤ last := by
    rw [precision_rescale]
    exact coarsest_le (by simp)
  refine eq_of_value ?_ ?_
  · rw [value_rescale_of_le _ hle, value_foldl_rescale, rescale_eq_cut]
  · rw [List.foldl_concat, precision_rescale, precision_rescale]

theorem coarsest_of_ends {p last : Precision} {chain : List Precision}
    (h : ∀ q ∈ chain, min p last ≤ q) : coarsest p (chain ++ [last]) = min p last := by
  refine coarsest_eq_iff.mpr ⟨?_, ?_⟩
  · obtain heq | heq := Std.min_eq_or (a := p) (b := last) <;> simp [heq]
  · intro q hq
    rw [List.mem_cons, List.mem_append, List.mem_singleton] at hq
    obtain rfl | hq | rfl := hq
    · exact Std.min_le_left
    · exact h q hq
    · exact Std.min_le_right

/-- A chain that never goes below both of its ends does what going straight does. -/
theorem foldl_rescale_direct (x : Decimal) {chain : List Precision} {last : Precision}
    (h : ∀ p ∈ chain, min x.precision last ≤ p) :
    (chain ++ [last]).foldl rescale x = x.rescale last := by
  refine eq_of_value ?_ ?_
  · rw [value_foldl_rescale, coarsest_of_ends h, ← value_rescale_cut, cut_value]
  · rw [List.foldl_concat, precision_rescale, precision_rescale]

end Decimal

namespace Amount
variable {s : Schema}

theorem toDecimal_ofDecimal (x : Decimal) (mode : Rounding) :
    (ofDecimal x mode : Amount s).toDecimal = x.rescaleWith s.precision mode :=
  Decimal.ext rfl (x.precision_rescaleWith s.precision mode).symm

theorem toDecimal_adjust (a : Amount s) (t : Schema) (mode : Rounding) :
    (a.adjust t mode).toDecimal = a.toDecimal.rescaleWith t.precision mode :=
  toDecimal_ofDecimal a.toDecimal mode

theorem toDecimal_injective {a b : Amount s} (h : a.toDecimal = b.toDecimal) : a = b := by
  cases a
  cases b
  cases h
  rfl

def adjustVia : {s : Schema} → Amount s → List Schema → (t : Schema) → Amount t
  | _, a, [], t => a.adjust t .towardZero
  | _, a, u :: rest, t => (a.adjust u .towardZero).adjustVia rest t

theorem toDecimal_adjustVia (a : Amount s) (via : List Schema) (t : Schema) :
    (a.adjustVia via t).toDecimal =
      (via.map Schema.precision ++ [t.precision]).foldl Decimal.rescale a.toDecimal := by
  induction via generalizing s a with
  | nil => exact a.toDecimal_adjust t .towardZero
  | cons u rest ih =>
    rw [adjustVia, ih, toDecimal_adjust]
    rfl

section
variable (a : Amount s) {via : List Schema} {t c : Schema}

theorem coarsest_of_schemas (hc : c ∈ s :: (via ++ [t]))
    (hle : ∀ u ∈ s :: (via ++ [t]), c.precision ≤ u.precision) :
    Decimal.coarsest s.precision (via.map Schema.precision ++ [t.precision]) = c.precision := by
  have hmap : s.precision :: (via.map Schema.precision ++ [t.precision]) =
      (s :: (via ++ [t])).map Schema.precision := by simp
  rw [Decimal.coarsest_eq_iff, hmap]
  refine ⟨List.mem_map_of_mem hc, ?_⟩
  intro p hp
  obtain ⟨u, hu, rfl⟩ := List.mem_map.mp hp
  exact hle u hu

theorem adjustVia_eq (hc : c ∈ s :: (via ++ [t]))
    (hle : ∀ u ∈ s :: (via ++ [t]), c.precision ≤ u.precision) :
    a.adjustVia via t = (a.adjust c .towardZero).adjust t .towardZero := by
  apply toDecimal_injective
  rw [toDecimal_adjustVia, Decimal.foldl_rescale, toDecimal_adjust, toDecimal_adjust]
  rw [← coarsest_of_schemas hc hle]
  rfl

theorem value_adjustVia (hc : c ∈ s :: (via ++ [t]))
    (hle : ∀ u ∈ s :: (via ++ [t]), c.precision ≤ u.precision) :
    (a.adjustVia via t).toDecimal.value =
      (Decimal.cut a.toDecimal.value c.precision).value := by
  rw [toDecimal_adjustVia, Decimal.value_foldl_rescale, ← coarsest_of_schemas hc hle]
  rfl

end

theorem value_le_iff {a b : Amount s} :
    a.toDecimal.value ≤ b.toDecimal.value ↔ a.magnitude ≤ b.magnitude := by
  have hp : (0 : ℚ) < 10 ^ s.precision.toNat := by positivity
  exact (div_le_div_iff_of_pos_right hp).trans Int.cast_le

theorem isLE_compare {a b : Amount s} : (compare a b).isLE ↔ a.magnitude ≤ b.magnitude :=
  Std.isLE_compare (a := a.magnitude) (b := b.magnitude)

/-- Amounts of one schema have the order of their numbers. -/
theorem compare_eq (a b : Amount s) : compare a b = compare a.toDecimal.value b.toDecimal.value := by
  have hlt (a b : Amount s) (h : a.magnitude < b.magnitude) :
      a.toDecimal.value < b.toDecimal.value :=
    (lt_iff_lt_of_le_iff_le value_le_iff).mpr h
  obtain h | h | h := lt_trichotomy a.magnitude b.magnitude
  · exact (compare_lt_iff_lt.mpr h).trans (compare_lt_iff_lt.mpr (hlt a b h)).symm
  · have hv : a.toDecimal.value = b.toDecimal.value := by rw [toDecimal, toDecimal, h]
    exact (compare_eq_iff_eq.mpr h).trans (compare_eq_iff_eq.mpr hv).symm
  · exact (compare_gt_iff_gt.mpr h).trans (compare_gt_iff_gt.mpr (hlt b a h)).symm

end Amount

namespace Decimal

/-- Chains of rescalings, for decimals and for amounts taken through schemas. -/
theorem paths_collapse (x : Decimal) {s : Schema} (a : Amount s) :
    (∀ chain last, (chain ++ [last]).foldl rescale x =
      (x.rescale (coarsest x.precision (chain ++ [last]))).rescale last) ∧
    (∀ chain last, (∀ p ∈ chain, min x.precision last ≤ p) →
      (chain ++ [last]).foldl rescale x = x.rescale last) ∧
    (∀ precision, x.precision ≤ precision → ∀ (mode other : Rounding) last,
      (x.rescaleWith precision other).rescaleWith last mode = x.rescaleWith last mode) ∧
    ∀ via t, ∀ c ∈ s :: (via ++ [t]), (∀ u ∈ s :: (via ++ [t]), c.precision ≤ u.precision) →
      a.adjustVia via t = (a.adjust c .towardZero).adjust t .towardZero ∧
      (a.adjustVia via t).toDecimal.value = (cut a.toDecimal.value c.precision).value := by
  refine ⟨x.foldl_rescale, fun _ _ => x.foldl_rescale_direct, ?_, ?_⟩
  · intro precision hle mode other last
    exact rescaleWith_congr (x.value_rescaleWith_of_le hle other) last mode
  · intro via t c hc hle
    exact ⟨a.adjustVia_eq hc hle, a.value_adjustVia hc hle⟩

/-- Ways of `-987.654321`, one of them through two digits, and of a negative amount. -/
theorem negative_paths_collapse :
    [8, 2, 4, 5].foldl rescale ⟨-987654321, 6⟩ = ⟨-98765000, 5⟩ ∧
    (∀ p ∈ ([9, 4] : List Precision), min 6 3 ≤ p) ∧
    [9, 4, 3].foldl rescale ⟨-987654321, 6⟩ = ⟨-987654, 3⟩ ∧
    (6 : Precision) ≤ 7 ∧
    ((⟨-987654321, 6⟩ : Decimal).rescaleWith 7 .halfEven).rescaleWith 1 .halfAwayFromZero =
      ⟨-9877, 1⟩ ∧
    Schema.collateral ∈ [Schema.usd, Schema.collateral, Schema.price] ∧
    (∀ u ∈ [Schema.usd, Schema.collateral, Schema.price],
      Schema.collateral.precision ≤ u.precision) ∧
    (⟨-1234567890123456⟩ : Amount .usd).adjustVia [.collateral] .price =
      ⟨-1234567890000000000⟩ := by
  have hends : ∀ p ∈ ([9, 4] : List Precision), min 6 3 ≤ p := by
    rw [List.forall_mem_cons, List.forall_mem_singleton]
    decide
  have hmem : Schema.collateral ∈ [Schema.usd, Schema.collateral, Schema.price] := by decide
  have hle : ∀ u ∈ [Schema.usd, Schema.collateral, Schema.price],
      Schema.collateral.precision ≤ u.precision := by decide
  obtain ⟨hall, hdirect, hwiden, hschemas⟩ :=
    paths_collapse ⟨-987654321, 6⟩ (⟨-1234567890123456⟩ : Amount .usd)
  refine ⟨(hall [8, 2, 4] 5).trans (by decide), hends, (hdirect [9, 4] 3 hends).trans (by decide),
    by decide, (hwiden 7 (by decide) .halfAwayFromZero .halfEven 1).trans (by decide), hmem, hle, ?_⟩
  rw [(hschemas [.collateral] .price .collateral hmem hle).1]
  decide

/-- Order and equality of numbers survive rescaling, whatever digits they were given with. -/
theorem rescaling_keeps_order (mode : Rounding) (precision : Precision) :
    (∀ x y : Decimal, x.value ≤ y.value →
      (x.rescaleWith precision mode).magnitude ≤ (y.rescaleWith precision mode).magnitude) ∧
    (∀ x y : Decimal, x.value = y.value →
      x.rescaleWith precision mode = y.rescaleWith precision mode) ∧
    ∀ (s t : Schema) (a b : Amount s),
      compare a b = compare a.toDecimal.value b.toDecimal.value ∧
      ((compare a b).isLE → (compare (a.adjust t mode) (b.adjust t mode)).isLE) := by
  refine ⟨fun x y h => rescaleWith_mono h precision mode,
    fun x y h => rescaleWith_congr h precision mode, ?_⟩
  intro s t a b
  refine ⟨a.compare_eq b, fun h => ?_⟩
  have hle := Amount.value_le_iff.mpr (Amount.isLE_compare.mp h)
  exact Amount.isLE_compare.mpr (rescaleWith_mono hle t.precision mode)

/-- `-3.5` and `-2.500` are ties and stay in order; `0.5` is `0.500`. -/
theorem ties_keep_order :
    (⟨-35, 1⟩ : Decimal).value ≤ (⟨-2500, 3⟩ : Decimal).value ∧
    ((⟨-35, 1⟩ : Decimal).rescaleWith 0 .halfEven).magnitude ≤
      ((⟨-2500, 3⟩ : Decimal).rescaleWith 0 .halfEven).magnitude ∧
    ((⟨-2500, 3⟩ : Decimal).rescaleWith 0 .halfEven).magnitude = -2 ∧
    (⟨5, 1⟩ : Decimal).value = (⟨500, 3⟩ : Decimal).value ∧
    (⟨5, 1⟩ : Decimal).rescaleWith 0 .halfEven = (⟨500, 3⟩ : Decimal).rescaleWith 0 .halfEven ∧
    (compare (⟨-3500000⟩ : Amount .unbranded) ⟨-2500000⟩).isLE ∧
    (compare ((⟨-3500000⟩ : Amount .unbranded).adjust ⟨"Whole", 0⟩ .halfEven)
      ((⟨-2500000⟩ : Amount .unbranded).adjust ⟨"Whole", 0⟩ .halfEven)).isLE := by
  have hone : (1 : Precision).toNat = 1 := rfl
  have hthree : (3 : Precision).toNat = 3 := rfl
  have hle : (⟨-35, 1⟩ : Decimal).value ≤ (⟨-2500, 3⟩ : Decimal).value := by
    norm_num [value, hone, hthree]
  have heq : (⟨5, 1⟩ : Decimal).value = (⟨500, 3⟩ : Decimal).value := by
    norm_num [value, hone, hthree]
  have horder : (compare (⟨-3500000⟩ : Amount .unbranded) ⟨-2500000⟩).isLE := by decide
  obtain ⟨hmono, hcongr, hamounts⟩ := rescaling_keeps_order .halfEven 0
  obtain ⟨-, hadjust⟩ := hamounts .unbranded ⟨"Whole", 0⟩ ⟨-3500000⟩ ⟨-2500000⟩
  exact ⟨hle, hmono _ _ hle, by decide, heq, hcongr _ _ heq, horder, hadjust horder⟩

end Decimal

end FixedDecimal
