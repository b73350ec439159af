import FixedDecimal.Proofs.Text.Digits
import FixedDecimal.Text.Number

/-! Digits with underscores among them. The first digit decides: nothing but digits and underscores
may follow it, and no underscore may stand before it. -/
namespace FixedDecimal.Text

def lead (cs : List Char) : List Char := cs.takeWhile fun c => !c.isDigit

def withoutUnderscores (cs : List Char) : List Char := cs.filter (· != '_')

def BeginsWithDigit (cs : List Char) : Prop := ∃ c rest, cs = c :: rest ∧ c.isDigit = true

theorem lead_append {front rest : List Char} (hfront : ∀ c ∈ front, c.isDigit = false)
    (hrest : BeginsWithDigit rest) : lead (front ++ rest) = front := by
  obtain ⟨c, rest, rfl, hc⟩ := hrest
  have hkeep : ∀ c ∈ front, (!c.isDigit) = true := by simpa using hfront
  rw [lead, List.takeWhile_append_of_pos hkeep, List.takeWhile_cons_of_neg (by simp [hc]),
    List.append_nil]

theorem isDigit_of_mem_lead {cs : List Char} {c : Char} (h : c ∈ lead cs) : c.isDigit = false := by
  simpa using List.mem_takeWhile_imp h

/-- The first digit, if there is one, stands right after the lead. -/
theorem exists_lead_append {cs : List Char} (h : ∃ c ∈ cs, c.isDigit = true) :
    ∃ rest, cs = lead cs ++ rest ∧ BeginsWithDigit rest := by
  refine ⟨cs.dropWhile fun c => !c.isDigit, List.takeWhile_append_dropWhile.symm, ?_⟩
  obtain ⟨c, hc, hdigit⟩ := h
  have hne : cs.dropWhile (fun c => !c.isDigit) ≠ [] := by
    intro hnil
    have hall := List.dropWhile_eq_nil_iff.mp hnil c hc
    simp [hdigit] at hall
  exact ⟨_, _, (List.cons_head_tail hne).symm, by simpa using List.head_dropWhile_not _ hne⟩

theorem withoutUnderscores_of_not_mem {cs : List Char} (h : '_' ∉ cs) :
    withoutUnderscores cs = cs :=
  List.filter_eq_self.mpr fun _ hc => bne_iff_ne.mpr (ne_of_mem_of_not_mem hc h)

theorem withoutUnderscores_append {front : List Char} (h : '_' ∉ front) (rest : List Char) :
    withoutUnderscores (front ++ rest) = front ++ withoutUnderscores rest := by
  rw [withoutUnderscores, List.filter_append]
  exact congrArg (· ++ _) (withoutUnderscores_of_not_mem h)

theorem BeginsWithDigit.withoutUnderscores {cs : List Char} (h : BeginsWithDigit cs) :
    BeginsWithDigit (withoutUnderscores cs) := by
  obtain ⟨c, rest, rfl, hc⟩ := h
  have hne : c ≠ '_' := by
    intro h
    exact absurd (h ▸ hc) (by decide)
  exact ⟨c, _, List.filter_cons_of_pos (bne_iff_ne.mpr hne), hc⟩

theorem beginsWithDigit_of_allDigits {cs : List Char} (hne : cs ≠ [])
    (h : allDigits cs = true) : BeginsWithDigit cs := by
  obtain ⟨c, rest, rfl⟩ := List.exists_cons_of_ne_nil hne
  exact ⟨c, rest, rfl, List.all_eq_true.mp h c List.mem_cons_self⟩

/-! ## Reading grouped digits -/

theorem groupedNatural_eq_ok {cs : List Char} {n : ℕ} :
    groupedNatural cs = .ok n ↔ BeginsWithDigit cs ∧
      allDigits (withoutUnderscores cs) = true ∧ n = ofDigits (withoutUnderscores cs) := by
  unfold groupedNatural
  split
  · simp [BeginsWithDigit]
  · simp [BeginsWithDigit]
  · next hnil hmark =>
    change (if allDigits (withoutUnderscores cs) then _ else _) = _ ↔ _
    split_ifs with hdigits
    · obtain ⟨c, rest, rfl⟩ := List.exists_cons_of_ne_nil hnil
      have hc : c ≠ '_' := fun h => hmark rest (h ▸ rfl)
      have hfirst : c ∈ withoutUnderscores (c :: rest) :=
        List.mem_filter.mpr ⟨List.mem_cons_self, bne_iff_ne.mpr hc⟩
      have hbegins : BeginsWithDigit (c :: rest) :=
        ⟨c, rest, rfl, List.all_eq_true.mp hdigits c hfirst⟩
      rw [Except.ok.injEq]
      exact ⟨fun h => ⟨hbegins, hdigits, h.symm⟩, fun h => h.2.2.symm⟩
    · simp [hdigits]

/-- No sign is taken off where a digit comes first. -/
theorem groupedInteger_of_digit {cs : List Char} (h : BeginsWithDigit cs) :
    groupedInteger cs = (groupedNatural cs).map Int.ofNat := by
  obtain ⟨c, rest, rfl, hc⟩ := h
  unfold groupedInteger
  split
  · next h =>
    obtain rfl := (List.cons.inj h).1
    exact absurd hc (by decide)
  · next h =>
    obtain rfl := (List.cons.inj h).1
    exact absurd hc (by decide)
  · rfl

end FixedDecimal.Text
