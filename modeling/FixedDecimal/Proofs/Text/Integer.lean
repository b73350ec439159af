import FixedDecimal.Proofs.Text.GroupedDigits
import FixedDecimal.Proofs.Text.Trim

/-! The decimal text of an integer: which characters it has, and that it is read as that
integer. -/
namespace FixedDecimal.Text

theorem integer_natCast (n : ℕ) : integer n = digits n := by
  simp [integer]

theorem mem_integer {n : ℤ} {c : Char} (h : c ∈ integer n) : c = '-' ∨ c.isDigit = true := by
  unfold integer at h
  split at h
  · obtain rfl | h := List.mem_cons.mp h
    · exact .inl rfl
    · exact .inr (isDigit_of_mem_digits h)
  · exact .inr (isDigit_of_mem_digits h)

theorem exists_integer_cons (n : ℤ) : ∃ c cs, integer n = c :: cs ∧
    (c = '-' ∨ c.isDigit = true) := by
  have hne : integer n ≠ [] := by
    unfold integer
    split
    · exact List.cons_ne_nil _ _
    · exact digits_ne_nil _
  obtain ⟨c, cs, hcons⟩ := List.exists_cons_of_ne_nil hne
  exact ⟨c, cs, hcons, mem_integer (hcons ▸ List.mem_cons_self)⟩

theorem trim_integer (n : ℤ) : trim (integer n) = integer n := by
  have hsolid : Solid (integer n) := solid_of_forall fun c hc => by
    obtain rfl | hdigit := mem_integer hc
    · rfl
    · exact isBlank_of_isDigit hdigit
  exact trim_eq_self hsolid.first hsolid.last

theorem groupedNatural_digits (n : ℕ) : groupedNatural (digits n) = .ok n := by
  have hkeep : withoutUnderscores (digits n) = digits n :=
    withoutUnderscores_of_not_mem fun h => absurd (isDigit_of_mem_digits h) (by decide)
  rw [groupedNatural_eq_ok, hkeep, ofDigits_digits]
  exact ⟨beginsWithDigit_of_allDigits (digits_ne_nil n) (allDigits_digits n),
    allDigits_digits n, rfl⟩

theorem groupedInteger_integer (n : ℤ) : groupedInteger (integer n) = .ok n := by
  have hread := groupedNatural_digits n.natAbs
  unfold integer
  split
  · next hn =>
    rw [groupedInteger, hread]
    exact congrArg Except.ok (show -(n.natAbs : ℤ) = n by omega)
  · next hn =>
    rw [groupedInteger_of_digit (groupedNatural_eq_ok.mp hread).1, hread]
    exact congrArg Except.ok (Int.natAbs_of_nonneg (Int.not_lt.mp hn))

end FixedDecimal.Text
