import FixedDecimal.Proofs.Amount.Binary64
import FixedDecimal.Proofs.Expression.DeclaredPrecision
import FixedDecimal.Proofs.Json.RoundTrip

/-! Quantities of a unit in JSON. A whole quantity gives one amount, whether it comes as an integer
of any width, as a double or as the text of its magnitude; other doubles are rounded, and what is
not finite is refused. -/
namespace FixedDecimal

/-! ## Whole numbers as literals -/

theorem Decimal.text_whole (n : ℤ) : (⟨n, 0⟩ : Decimal).text = String.ofList (Text.integer n) := by
  rw [text, chars, UInt32.toNat_zero, Text.positional_whole, Text.integer]
  split_ifs <;> rfl

theorem Decimal.read_integer (n : ℤ) : read (String.ofList (Text.integer n)) = .ok ⟨n, 0⟩ := by
  have hp : (⟨n, 0⟩ : Decimal).reduced.precision = 0 :=
    UInt32.le_antisymm (precision_reduced_le _) UInt32.zero_le
  rw [← text_whole, read_text]
  exact congrArg Except.ok (eq_of_value (value_reduced _) hp)

theorem Amount.read_integer (s : Schema) (n : ℤ) :
    Amount.read s (String.ofList (Text.integer n)) = .ok ⟨n * 10 ^ s.precision.toNat⟩ := by
  have hwide : (0 : Precision) ≤ s.precision := UInt32.zero_le
  refine read_eq_ok.mpr ⟨⟨n, 0⟩, Decimal.read_integer n, hwide, ?_⟩
  refine Decimal.eq_of_value ?_ (Decimal.precision_rescale _ _).symm
  rw [Decimal.value_rescale_of_le _ hwide, Decimal.value, Decimal.value, toDecimal]
  simp

namespace Json

/-! ## Numbers that a format hands over -/

/-- The four widths leave no gap between the smallest and the largest integer they hold. -/
theorem MachineInteger.exists_value {n : ℤ} :
    (∃ m : MachineInteger, m.value = n) ↔ -2 ^ 127 ≤ n ∧ n < 2 ^ 128 := by
  constructor
  · intro h
    obtain ⟨m, rfl⟩ := h
    cases m with
    | signed64 i =>
      have hl := i.le_toInt
      have hu := i.toInt_lt
      rw [value]
      omega
    | unsigned64 i =>
      have hu := i.toNat_lt
      rw [value]
      omega
    | signed128 i =>
      have hl : -2 ^ 127 ≤ i.toInt := i.le_toInt
      have hu : i.toInt < 2 ^ 127 := i.toInt_lt
      rw [value]
      omega
    | unsigned128 i =>
      have hu := i.isLt
      rw [value]
      omega
  · intro h
    by_cases hn : n < 2 ^ 127
    · refine ⟨.signed128 (.ofInt 128 n), ?_⟩
      rw [value, BitVec.toInt_ofInt]
      exact Int.bmod_eq_of_le (by omega) (by omega)
    · refine ⟨.unsigned128 (.ofNat 128 n.toNat), ?_⟩
      rw [value, BitVec.toNat_ofNat, Nat.mod_eq_of_lt (by omega)]
      omega

variable {s : Schema}

theorem amountOfInteger_eq (s : Schema) (n : ℤ) :
    amountOfInteger s n = .ok ⟨n * 10 ^ s.precision.toNat⟩ := by
  rw [amountOfInteger, Amount.read_integer]
  rfl

theorem amountOfNumber_double {x : Binary64} {a : Amount s} (h : Amount.ofBinary64 s x = .ok a) :
    amountOfNumber s (.double x) = .ok a := by
  rw [amountOfNumber, h]
  rfl

end Json

open Json in
/-- A whole quantity in every form it is read in, and doubles whole or not. -/
theorem quantities_agree (s : Schema) :
    (∀ n : ℤ,
      Amount.read s (String.ofList (Text.integer n)) = .ok ⟨n * 10 ^ s.precision.toNat⟩ ∧
      readAmount s (writeString (String.ofList (Text.integer (n * 10 ^ s.precision.toNat)))) =
        .ok ⟨n * 10 ^ s.precision.toNat⟩ ∧
      ((∃ m : MachineInteger, m.value = n) ↔ -2 ^ 127 ≤ n ∧ n < 2 ^ 128) ∧
      (∀ m : MachineInteger, m.value = n →
        amountOfMachineInteger s m = .ok ⟨n * 10 ^ s.precision.toNat⟩) ∧
      amountOfNumber s (.integer n) = .ok ⟨n * 10 ^ s.precision.toNat⟩ ∧
      ∀ x : Binary64, x.isFinite = true → x.value = n → |n| ≤ 2 ^ 53 →
        amountOfNumber s (.double x) = .ok ⟨n * 10 ^ s.precision.toNat⟩) ∧
    ∀ x : Binary64,
      (x.isFinite = true →
        ∃ a, Amount.ofBinary64 s x = .ok a ∧ amountOfNumber s (.double x) = .ok a) ∧
      (¬x.isFinite = true →
        amountOfNumber s (.double x) = .error (.ofText (Error.nonFiniteFloat x).message)) := by
  refine ⟨?_, ?_⟩
  · intro n
    refine ⟨Amount.read_integer s n, readAmount_writeAmount ⟨_⟩, MachineInteger.exists_value, ?_,
      amountOfInteger_eq s n, ?_⟩
    · intro m hm
      rw [amountOfMachineInteger, hm, amountOfInteger_eq]
    · intro x hx h hn
      exact amountOfNumber_double (Amount.ofBinary64_of_whole hx h hn)
  · intro x
    refine ⟨?_, ?_⟩
    · intro hx
      have hok := Amount.ofBinary64_of_text (s := s) hx (Binary64.chars_numeral hx)
        x.length_fraction_lt
      exact ⟨_, hok, amountOfNumber_double hok⟩
    · intro hx
      rw [amountOfNumber, Amount.ofBinary64_eq_error.mpr ⟨hx, rfl⟩]
      rfl

open Json in
/-- Minus three as an integer and as a double, and an infinity. -/
theorem minusThree_quantities_agree :
    (MachineInteger.signed64 (-3)).value = -3 ∧
    amountOfMachineInteger ⟨"Two", 2⟩ (.signed64 (-3)) = .ok ⟨-300⟩ ∧
    (⟨0xC008000000000000⟩ : Binary64).isFinite = true ∧
    (⟨0xC008000000000000⟩ : Binary64).value = (-3 : ℤ) ∧ |(-3 : ℤ)| ≤ 2 ^ 53 ∧
    amountOfNumber ⟨"Two", 2⟩ (.double ⟨0xC008000000000000⟩) = .ok ⟨-300⟩ ∧
    (∃ a, Amount.ofBinary64 ⟨"Two", 2⟩ ⟨0xC008000000000000⟩ = .ok a) ∧
    ¬(⟨0x7FF0000000000000⟩ : Binary64).isFinite = true ∧
    amountOfNumber ⟨"Two", 2⟩ (.double ⟨0x7FF0000000000000⟩) =
      .error (.ofText "Cannot scale non-finite float: inf") := by
  obtain ⟨hwhole, hdouble⟩ := quantities_agree ⟨"Two", 2⟩
  obtain ⟨-, -, -, hinteger, -, hexact⟩ := hwhole (-3)
  have hvalue : (MachineInteger.signed64 (-3)).value = -3 := by decide
  have hfinite : (⟨0xC008000000000000⟩ : Binary64).isFinite = true := by decide
  have hthree : (⟨0xC008000000000000⟩ : Binary64).value = (-3 : ℤ) := by
    have hunits : (⟨0xC008000000000000⟩ : Binary64).units = 3 * Binary64.unitsInOne := by
      decide +kernel
    have hsign : (⟨0xC008000000000000⟩ : Binary64).isNegative = true := by decide
    rw [Binary64.value_of_units hunits, hsign]
    simp
  have hsmall : |(-3 : ℤ)| ≤ 2 ^ 53 := by decide
  have hinfinite : ¬(⟨0x7FF0000000000000⟩ : Binary64).isFinite = true := by decide
  obtain ⟨a, ha, -⟩ := (hdouble ⟨0xC008000000000000⟩).1 hfinite
  exact ⟨hvalue, hinteger _ hvalue, hfinite, hthree, hsmall, hexact _ hfinite hthree hsmall,
    ⟨a, ha⟩, hinfinite, (hdouble _).2 hinfinite⟩

end FixedDecimal
