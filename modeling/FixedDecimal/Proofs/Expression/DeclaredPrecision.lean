import FixedDecimal.Proofs.Decimal.LiteralValue
import FixedDecimal.Proofs.Decimal.Rescaling
import FixedDecimal.Proofs.Expression.Writing

/-! Literals with a declared precision. The schema of an amount declares one, and so does the mark
of a value in an expression. Either way the literal is widened and never cut: it is refused when it
writes more digits than were declared. -/
namespace FixedDecimal

namespace Literal

def Readable (s : String) : Prop := ∃ l : Literal, l.StandsIn s ∧ l.places < 2 ^ 32

def Exceeds (l : Literal) (s : String) (digits precision : Precision) : Prop :=
  l.StandsIn s ∧ digits.toNat = l.places ∧ precision < digits

end Literal

namespace Decimal
variable {lit : String}

theorem read_eq_error_iff_readable {e : Error} :
    read lit = .error e ↔ ¬Literal.Readable lit ∧ e = .invalidDecimal lit := by
  have hreadable : (∃ x, read lit = .ok x) ↔ Literal.Readable lit := by
    constructor
    · intro h
      obtain ⟨x, hx⟩ := h
      obtain ⟨l, hl, hlt, -⟩ := read_eq_ok_iff.mp hx
      exact ⟨l, hl, hlt⟩
    · intro h
      obtain ⟨l, hl, hlt⟩ := h
      exact ⟨_, read_eq_ok_iff.mpr ⟨l, hl, hlt, rfl⟩⟩
  rw [read_eq_error_iff, hreadable]

/-- What is said of a text with too many digits is said of the literal in it. -/
theorem exists_read_exceeds {precision : Precision} (P : List Char → Precision → Prop) :
    (∃ x, read lit = .ok x ∧ precision < x.precision ∧ P (Text.trim lit.toList) x.precision) ↔
      ∃ (l : Literal) (digits : Precision), l.Exceeds lit digits precision ∧ P l.chars digits := by
  constructor
  · intro h
    obtain ⟨x, hx, hlt, hP⟩ := h
    obtain ⟨l, hl, hp, -⟩ := read_eq_ok_iff_value.mp hx
    rw [l.standsIn_iff.mp hl] at hP
    exact ⟨l, x.precision, ⟨hl, hp, hlt⟩, hP⟩
  · intro h
    obtain ⟨l, digits, ⟨hl, hp, hlt⟩, hP⟩ := h
    have hx : read lit = .ok ⟨l.magnitude, digits⟩ :=
      read_eq_ok_iff_value.mpr ⟨l, hl, hp, value_of_places hp⟩
    rw [← l.standsIn_iff.mp hl] at hP
    exact ⟨_, hx, hlt, hP⟩

/-- What a literal is widened to has its value. -/
theorem exists_read_widened {precision : Precision} {y : Decimal} :
    (∃ x, read lit = .ok x ∧ x.precision ≤ precision ∧ y = x.rescale precision) ↔
      y.precision = precision ∧ ∃ l : Literal, l.StandsIn lit ∧ l.places ≤ precision.toNat ∧
        y.value = l.value := by
  constructor
  · intro h
    obtain ⟨x, hx, hle, rfl⟩ := h
    obtain ⟨l, hl, hp, hv⟩ := read_eq_ok_iff_value.mp hx
    refine ⟨x.precision_rescale precision, l, hl, ?_, ?_⟩
    · rw [← hp]
      exact UInt32.le_iff_toNat_le.mp hle
    · rw [x.value_rescale_of_le hle, hv]
  · intro h
    obtain ⟨rfl, l, hl, hle, hv⟩ := h
    have hp : (UInt32.ofNat l.places).toNat = l.places :=
      UInt32.toNat_ofNat_of_lt' (hle.trans_lt y.precision.toNat_lt)
    have hx : read lit = .ok ⟨l.magnitude, UInt32.ofNat l.places⟩ :=
      read_eq_ok_iff_value.mpr ⟨l, hl, hp, value_of_places hp⟩
    have hwiden : UInt32.ofNat l.places ≤ y.precision := by
      rwa [UInt32.le_iff_toNat_le, hp]
    refine ⟨_, hx, hwiden, eq_of_value ?_ (precision_rescale _ _).symm⟩
    rw [value_rescale_of_le _ hwiden, hv, value_of_places hp]

end Decimal

/-! ## The two readers -/

namespace Amount
variable {s : Schema} {lit : String}

theorem read_eq_ok {a : Amount s} : read s lit = .ok a ↔
    ∃ x, Decimal.read lit = .ok x ∧ x.precision ≤ s.precision ∧
      a.toDecimal = x.rescale s.precision := by
  rw [read, bind_eq_ok]
  refine exists_congr fun x => and_congr_right fun _ => ?_
  have hamount : (ofDecimal x .towardZero : Amount s).toDecimal = x.rescale s.precision :=
    toDecimal_ofDecimal x .towardZero
  split_ifs with h
  · simp [UInt32.not_le.mpr h]
  · simp only [Except.ok.injEq, UInt32.not_lt.mp h, true_and, ← hamount]
    exact ⟨fun ha => ha ▸ rfl, fun ha => (toDecimal_injective ha).symm⟩

theorem read_eq_error {e : Error} : read s lit = .error e ↔ Decimal.read lit = .error e ∨
    ∃ x, Decimal.read lit = .ok x ∧ s.precision < x.precision ∧
      e = .excessPrecision (String.ofList (Text.trim lit.toList)) x.precision s.name
        s.precision := by
  rw [read, bind_eq_error]
  refine or_congr_right (exists_congr fun x => and_congr_right fun _ => ?_)
  split_ifs with h <;> simp [h, eq_comm]

end Amount

namespace Expression
variable {lit suffix : String} (hmark : '@' ∉ lit.toList)
include hmark

theorem splitMark?_marked :
    splitMark? (lit ++ "@" ++ suffix).toList = (lit.toList, some suffix.toList) := by
  have hchars : (lit ++ "@" ++ suffix).toList = lit.toList ++ '@' :: suffix.toList := by simp
  rw [hchars, splitMark?_of_mark hmark]

theorem readValue_marked {precision : Precision}
    (hp : Text.word? suffix.toList = some precision) :
    readValue (lit ++ "@" ++ suffix) = do
      let x ← Decimal.read lit
      if precision < x.precision then
        .error (.invalidDecimal s!"{lit} has more than {precision} fractional digits")
      else return x.rescale precision := by
  simp only [readValue, splitMark?_marked hmark, hp, String.ofList_toList]

theorem readValue_marked_eq_ok {precision : Precision}
    (hp : Text.word? suffix.toList = some precision) {y : Decimal} :
    readValue (lit ++ "@" ++ suffix) = .ok y ↔
      ∃ x, Decimal.read lit = .ok x ∧ x.precision ≤ precision ∧ y = x.rescale precision := by
  rw [readValue_marked hmark hp, bind_eq_ok]
  refine exists_congr fun x => and_congr_right fun _ => ?_
  split_ifs with h
  · simp [UInt32.not_le.mpr h]
  · simp [UInt32.not_lt.mp h, pure, Except.pure, eq_comm]

theorem readValue_marked_eq_error {precision : Precision}
    (hp : Text.word? suffix.toList = some precision) {e : Error} :
    readValue (lit ++ "@" ++ suffix) = .error e ↔ Decimal.read lit = .error e ∨
      ∃ x, Decimal.read lit = .ok x ∧ precision < x.precision ∧
        e = .invalidDecimal s!"{lit} has more than {precision} fractional digits" := by
  rw [readValue_marked hmark hp, bind_eq_error]
  refine or_congr_right (exists_congr fun x => and_congr_right fun _ => ?_)
  split_ifs with h <;> simp [h, pure, Except.pure, eq_comm]

/-- Whatever precision a mark declares, the number is that of the literal alone. -/
theorem value_of_readValue_marked {y : Decimal} (h : readValue (lit ++ "@" ++ suffix) = .ok y) :
    ∃ x, readValue lit = .ok x ∧ x.value = y.value := by
  cases hp : Text.word? suffix.toList with
  | none =>
    simp only [readValue, splitMark?_marked hmark, hp] at h
    cases h
  | some precision =>
    obtain ⟨x, hx, hle, rfl⟩ := (readValue_marked_eq_ok hmark hp).mp h
    refine ⟨x, ?_, (x.value_rescale_of_le hle).symm⟩
    rw [readValue, splitMark?_of_no_mark hmark]
    exact hx

end Expression

open Expression in
/-- Literals read for a schema and literals marked with its precision. -/
theorem declared_precision_readers {lit : String} (hmark : '@' ∉ lit.toList) (s : Schema) :
    (∀ a, Amount.read s lit = .ok a ↔ ∃ l : Literal, l.StandsIn lit ∧
      l.places ≤ s.precision.toNat ∧ a.toDecimal.value = l.value) ∧
    (∀ x, readValue (lit ++ "@" ++ toString s.precision) = .ok x ↔
      ∃ a : Amount s, Amount.read s lit = .ok a ∧ a.toDecimal = x ∧ x.precision = s.precision) ∧
    (∀ e, Amount.read s lit = .error e ↔
      (¬Literal.Readable lit ∧ e = .invalidDecimal lit) ∨
      ∃ (l : Literal) (digits : Precision), l.Exceeds lit digits s.precision ∧
        e = .excessPrecision (String.ofList l.chars) digits s.name s.precision) ∧
    (∀ e, readValue (lit ++ "@" ++ toString s.precision) = .error e ↔
      (¬Literal.Readable lit ∧ e = .invalidDecimal lit) ∨
      ∃ (l : Literal) (digits : Precision), l.Exceeds lit digits s.precision ∧
        e = .invalidDecimal s!"{lit} has more than {s.precision} fractional digits") ∧
    ∀ suffix x, readValue (lit ++ "@" ++ suffix) = .ok x →
      ∃ y, readValue lit = .ok y ∧ y.value = x.value := by
  have hp : Text.word? (toString s.precision).toList = some s.precision := by
    have hdigits : (toString s.precision).toList = Text.digits s.precision.toNat :=
      String.toList_ofList
    rw [hdigits, Text.word?_digits]
  refine ⟨?_, ?_, ?_, ?_, fun suffix x => value_of_readValue_marked hmark⟩
  · intro a
    rw [Amount.read_eq_ok, Decimal.exists_read_widened]
    simp [Amount.toDecimal]
  · intro x
    rw [readValue_marked_eq_ok hmark hp]
    constructor
    · intro h
      obtain ⟨y, hy, hle, rfl⟩ := h
      have hamount := Amount.toDecimal_ofDecimal (s := s) y .towardZero
      exact ⟨_, Amount.read_eq_ok.mpr ⟨y, hy, hle, hamount⟩, hamount, y.precision_rescale _⟩
    · intro h
      obtain ⟨a, ha, rfl, -⟩ := h
      exact Amount.read_eq_ok.mp ha
  · intro e
    rw [Amount.read_eq_error, Decimal.read_eq_error_iff_readable]
    exact or_congr_right (Decimal.exists_read_exceeds fun cs digits =>
      e = .excessPrecision (String.ofList cs) digits s.name s.precision)
  · intro e
    rw [readValue_marked_eq_error hmark hp, Decimal.read_eq_error_iff_readable]
    exact or_congr_right (Decimal.exists_read_exceeds fun _ _ =>
      e = .invalidDecimal s!"{lit} has more than {s.precision} fractional digits")

open Expression in
/-- Three fractional digits are written in ` -.250`: enough for one schema, too many for another. -/
theorem quarter_read_at_declared_precision :
    '@' ∉ " -.250".toList ∧
    Amount.read ⟨"Four", 4⟩ " -.250" = .ok ⟨-2500⟩ ∧ readValue " -.250@4" = .ok ⟨-2500, 4⟩ ∧
    Amount.read ⟨"Two", 2⟩ " -.250" = .error (.excessPrecision "-.250" 3 "Two" 2) ∧
    readValue " -.250@2" = .error (.invalidDecimal " -.250 has more than 2 fractional digits") ∧
    ∃ y, readValue " -.250" = .ok y ∧ y.value = -1 / 4 := by
  have hmark : '@' ∉ " -.250".toList := by decide
  let l : Literal := ⟨.minus, [], some ['2', '5', '0'], rfl, by simp; decide, by simp⟩
  have hl : l.StandsIn " -.250" := l.standsIn_iff.mpr (by decide)
  have hfour : (4 : Precision).toNat = 4 := rfl
  have hquarter : l.value = -1 / 4 := by
    have hdigits : Text.ofDigits ['2', '5', '0'] = 250 := by decide
    norm_num [l, Literal.value, Literal.places, Text.ofDigits_nil, hdigits]
  have hvalue : (⟨-2500⟩ : Amount ⟨"Four", 4⟩).toDecimal.value = l.value := by
    rw [hquarter]
    norm_num [Amount.toDecimal, Decimal.value, hfour]
  obtain ⟨hread, hmarked, -, -, hsame⟩ := declared_precision_readers hmark ⟨"Four", 4⟩
  obtain ⟨-, -, hexcess, hexcessMarked, -⟩ := declared_precision_readers hmark ⟨"Two", 2⟩
  have hthree : l.Exceeds " -.250" 3 2 := ⟨hl, rfl, by decide⟩
  have ha := (hread ⟨-2500⟩).mpr ⟨l, hl, by decide, hvalue⟩
  have hx := (hmarked ⟨-2500, 4⟩).mpr ⟨⟨-2500⟩, ha, rfl, rfl⟩
  obtain ⟨y, hy, heq⟩ := hsame "4" ⟨-2500, 4⟩ hx
  refine ⟨hmark, ha, hx, (hexcess _).mpr (.inr ⟨l, 3, hthree, by decide⟩),
    (hexcessMarked _).mpr (.inr ⟨l, 3, hthree, by decide⟩), y, hy, ?_⟩
  exact heq.trans (hvalue.trans hquarter)

end FixedDecimal
