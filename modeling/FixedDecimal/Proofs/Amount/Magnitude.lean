import FixedDecimal.Amount
import FixedDecimal.Proofs.Decimal.Literal
import FixedDecimal.Proofs.Text.GroupedDigits

/-! Magnitudes as texts. They are read as decimal literals without a point are, except that
underscores may stand anywhere after the first digit and count for nothing. -/
namespace FixedDecimal

namespace Text

/-- The sign is taken off first, if there is one. -/
theorem exists_groupedInteger_eq (cs : List Char) :
    ∃ (sign : LiteralSign) (body : List Char), cs = sign.chars ++ body ∧
      groupedInteger cs =
        (groupedNatural body).map fun n : ℕ => if sign = .minus then -(n : ℤ) else n := by
  unfold groupedInteger
  split
  · next rest =>
    refine ⟨.minus, rest, rfl, ?_⟩
    cases groupedNatural rest <;> rfl
  · next rest => exact ⟨.plus, rest, rfl, rfl⟩
  · exact ⟨.absent, cs, rfl, rfl⟩

/-- A text is read if it is a sign, which may be absent, and grouped digits. -/
theorem groupedInteger_eq_ok_signed {cs : List Char} {m : ℤ} :
    groupedInteger cs = .ok m ↔ ∃ (sign : LiteralSign) (body : List Char) (n : ℕ),
      cs = sign.chars ++ body ∧ groupedNatural body = .ok n ∧
        m = if sign = .minus then -(n : ℤ) else n := by
  constructor
  · intro h
    obtain ⟨sign, body, hcs, hread⟩ := exists_groupedInteger_eq cs
    rw [hread, map_eq_ok] at h
    obtain ⟨n, hn, rfl⟩ := h
    exact ⟨sign, body, n, hcs, hn, rfl⟩
  · intro h
    obtain ⟨sign, body, n, rfl, hn, rfl⟩ := h
    cases sign with
    | minus | plus =>
      rw [LiteralSign.chars, List.singleton_append, groupedInteger, hn]
      rfl
    | absent =>
      have hbegins := (groupedNatural_eq_ok.mp hn).1
      rw [LiteralSign.chars, List.nil_append, groupedInteger_of_digit hbegins, hn]
      rfl

end Text

/-! ## Integers as literals -/

theorem LiteralSign.isDigit_of_mem_chars {sign : LiteralSign} {c : Char} (h : c ∈ sign.chars) :
    c.isDigit = false := by
  cases sign <;> simp_all [chars]

theorem LiteralSign.underscore_not_mem_chars (sign : LiteralSign) : '_' ∉ sign.chars := by
  cases sign <;> decide

namespace Literal
variable (l : Literal)

theorem chars_of_whole (h : l.fraction = none) : l.chars = l.sign.chars ++ l.whole := by
  rw [chars, unsigned, h]

theorem beginsWithDigit_whole (h : l.fraction = none) : Text.BeginsWithDigit l.whole := by
  have hne := l.digits_ne_nil
  rw [h, Option.getD_none, List.append_nil] at hne
  exact Text.beginsWithDigit_of_allDigits hne l.whole_digits

theorem places_of_whole (h : l.fraction = none) : l.places = 0 := by
  rw [places, h]
  rfl

theorem magnitude_of_whole (h : l.fraction = none) : l.magnitude =
    if l.sign = .minus then -(Text.ofDigits l.whole : ℤ) else Text.ofDigits l.whole := by
  rw [magnitude, digits, h, Option.getD_none, List.append_nil]

/-- Only the fraction brings a point. -/
theorem fraction_eq_none_iff : l.fraction = none ↔ '.' ∉ l.chars := by
  cases hf : l.fraction with
  | none =>
    refine iff_of_true rfl fun h => ?_
    rw [l.chars_of_whole hf, List.mem_append] at h
    obtain h | h := h
    · cases hs : l.sign <;> simp [hs, LiteralSign.chars] at h
    · exact absurd (List.all_eq_true.mp l.whole_digits _ h) (by decide)
  | some cs => simp [chars, unsigned, hf]

/-- Underscores that leave the lead alone leave the sign alone too. -/
theorem exists_grouped_whole (hl : l.fraction = none) {cs : List Char} (hlead : '_' ∉ Text.lead cs)
    (hchars : Text.withoutUnderscores cs = l.chars) :
    ∃ body, cs = l.sign.chars ++ body ∧ Text.BeginsWithDigit body ∧
      Text.withoutUnderscores body = l.whole := by
  rw [l.chars_of_whole hl] at hchars
  have hwhole := l.beginsWithDigit_whole hl
  have hdigit : ∃ c ∈ cs, c.isDigit = true := by
    obtain ⟨c, rest, hcons, hc⟩ := hwhole
    have hmem : c ∈ Text.withoutUnderscores cs := by simp [hchars, hcons]
    exact ⟨c, List.mem_of_mem_filter hmem, hc⟩
  obtain ⟨body, hcs, hbody⟩ := Text.exists_lead_append hdigit
  -- both sides still split before their first digit, so their leads are one
  rw [hcs, Text.withoutUnderscores_append hlead] at hchars
  have hsign := congrArg Text.lead hchars
  rw [Text.lead_append (fun _ => Text.isDigit_of_mem_lead) hbody.withoutUnderscores,
    Text.lead_append (fun _ => LiteralSign.isDigit_of_mem_chars) hwhole] at hsign
  rw [hsign] at hcs hchars
  exact ⟨body, hcs, hbody, List.append_cancel_left hchars⟩

end Literal

/-- Apart from underscores after the first digit, the text is a literal without a point. -/
theorem Text.groupedInteger_eq_ok {cs : List Char} {m : ℤ} :
    groupedInteger cs = .ok m ↔ '_' ∉ lead cs ∧ ∃ l : Literal, l.fraction = none ∧
      withoutUnderscores cs = l.chars ∧ m = l.magnitude := by
  rw [groupedInteger_eq_ok_signed]
  constructor
  · intro h
    obtain ⟨sign, body, n, rfl, hn, rfl⟩ := h
    obtain ⟨hbegins, hdigits, rfl⟩ := groupedNatural_eq_ok.mp hn
    have hne : withoutUnderscores body ≠ [] := by
      obtain ⟨c, rest, hcons, -⟩ := hbegins.withoutUnderscores
      exact hcons ▸ List.cons_ne_nil c rest
    let l : Literal := ⟨sign, withoutUnderscores body, none, hdigits, by simp, by simpa using hne⟩
    rw [lead_append (fun _ => LiteralSign.isDigit_of_mem_chars) hbegins]
    have hl : l.fraction = none := rfl
    refine ⟨sign.underscore_not_mem_chars, l, hl, ?_, (l.magnitude_of_whole hl).symm⟩
    rw [withoutUnderscores_append sign.underscore_not_mem_chars, l.chars_of_whole hl]
  · intro h
    obtain ⟨hlead, l, hl, hchars, rfl⟩ := h
    obtain ⟨body, hcs, hbody, hdigits⟩ := l.exists_grouped_whole hl hlead hchars
    have hread : groupedNatural body = .ok (ofDigits l.whole) :=
      groupedNatural_eq_ok.mpr ⟨hbody, hdigits ▸ l.whole_digits, hdigits ▸ rfl⟩
    exact ⟨l.sign, body, _, hcs, hread, l.magnitude_of_whole hl⟩

/-! ## Readers of whole texts -/

/-- Without a point there are no digits to count. -/
theorem Decimal.read_eq_ok_of_no_point {s : String} (h : '.' ∉ s.toList) {x : Decimal} :
    read s = .ok x ↔ ∃ l : Literal, l.fraction = none ∧ Text.trim s.toList = l.chars ∧
      x = ⟨l.magnitude, 0⟩ := by
  rw [read_eq_ok_iff]
  have hpoint : '.' ∉ Text.trim s.toList := mt (Text.mem_trim rfl).mp h
  refine exists_congr fun l => ?_
  rw [l.standsIn_iff]
  constructor
  · intro hl
    obtain ⟨htrim, -, rfl⟩ := hl
    have hnone := l.fraction_eq_none_iff.mpr (htrim ▸ hpoint)
    exact ⟨hnone, htrim, by rw [l.places_of_whole hnone]; rfl⟩
  · intro hl
    obtain ⟨hnone, htrim, rfl⟩ := hl
    rw [l.places_of_whole hnone]
    exact ⟨htrim, by decide, rfl⟩

namespace Amount
variable {schema : Schema} {s : String} {m : ℤ}

theorem readMagnitude_eq_ok : readMagnitude schema s = .ok ⟨m⟩ ↔
    '_' ∉ Text.lead (Text.trim s.toList) ∧ ∃ l : Literal, l.fraction = none ∧
      Text.withoutUnderscores (Text.trim s.toList) = l.chars ∧ m = l.magnitude := by
  rw [← Text.groupedInteger_eq_ok, readMagnitude]
  cases Text.groupedInteger (Text.trim s.toList) <;> simp

theorem readMagnitude_eq_error {e : Error} : readMagnitude schema s = .error e ↔
    (∀ m, readMagnitude schema s ≠ .ok ⟨m⟩) ∧ e = .invalidDecimal s := by
  rw [readMagnitude]
  cases Text.groupedInteger (Text.trim s.toList) <;> simp [eq_comm]

theorem readMagnitude_of_point (h : '.' ∈ s.toList) :
    readMagnitude schema s = .error (.invalidDecimal s) := by
  refine readMagnitude_eq_error.mpr ⟨fun m hm => ?_, rfl⟩
  obtain ⟨-, l, hl, hchars, -⟩ := readMagnitude_eq_ok.mp hm
  refine l.fraction_eq_none_iff.mp hl ?_
  rw [← hchars]
  exact List.mem_filter.mpr ⟨(Text.mem_trim rfl).mpr h, rfl⟩

theorem readMagnitude_eq_ok_iff_read (hpoint : '.' ∉ s.toList) (hmark : '_' ∉ s.toList) :
    readMagnitude schema s = .ok ⟨m⟩ ↔ Decimal.read s = .ok ⟨m, 0⟩ := by
  have hplain : '_' ∉ Text.trim s.toList := mt (Text.mem_trim rfl).mp hmark
  have hlead : '_' ∉ Text.lead (Text.trim s.toList) := fun h =>
    hplain ((List.takeWhile_sublist _).subset h)
  rw [readMagnitude_eq_ok, Decimal.read_eq_ok_of_no_point hpoint,
    Text.withoutUnderscores_of_not_mem hplain]
  simp [hlead]

/-- An integer is read the same way as a magnitude and as a decimal literal; magnitudes take
underscores as well, and no points. -/
theorem integer_readers_agree (schema : Schema) (s : String) :
    ('.' ∉ s.toList → '_' ∉ s.toList →
      (∀ m, readMagnitude schema s = .ok ⟨m⟩ ↔ Decimal.read s = .ok ⟨m, 0⟩) ∧
      ((∀ m, readMagnitude schema s ≠ .ok ⟨m⟩) →
        readMagnitude schema s = .error (.invalidDecimal s) ∧
        Decimal.read s = .error (.invalidDecimal s))) ∧
    ('.' ∈ s.toList → readMagnitude schema s = .error (.invalidDecimal s)) ∧
    ∀ m, readMagnitude schema s = .ok ⟨m⟩ ↔
      '_' ∉ Text.lead (Text.trim s.toList) ∧ ∃ l : Literal, l.fraction = none ∧
        Text.withoutUnderscores (Text.trim s.toList) = l.chars ∧ m = l.magnitude := by
  refine ⟨?_, readMagnitude_of_point, fun m => readMagnitude_eq_ok⟩
  intro hpoint hmark
  refine ⟨fun m => readMagnitude_eq_ok_iff_read hpoint hmark, fun hnone => ?_⟩
  refine ⟨readMagnitude_eq_error.mpr ⟨hnone, rfl⟩, Decimal.read_eq_error_iff.mpr ⟨?_, rfl⟩⟩
  intro hread
  obtain ⟨x, hx⟩ := hread
  obtain ⟨l, -, -, rfl⟩ := (Decimal.read_eq_ok_of_no_point hpoint).mp hx
  exact hnone _ ((readMagnitude_eq_ok_iff_read hpoint hmark).mpr hx)

/-- Zeros before the digits, two signs, a point, and underscores among the digits and before
them. -/
theorem minusSeven_integer_readers_agree :
    '.' ∉ " -007\t".toList ∧ '_' ∉ " -007\t".toList ∧
    readMagnitude .usd " -007\t" = .ok ⟨-7⟩ ∧
    '.' ∉ "+-7".toList ∧ '_' ∉ "+-7".toList ∧
    readMagnitude .usd "+-7" = .error (.invalidDecimal "+-7") ∧
    Decimal.read "+-7" = .error (.invalidDecimal "+-7") ∧
    '.' ∈ " 7.0".toList ∧ readMagnitude .usd " 7.0" = .error (.invalidDecimal " 7.0") ∧
    readMagnitude .usd " -0_0__7_" = .ok ⟨-7⟩ ∧ readMagnitude .usd "-_7" ≠ .ok ⟨-7⟩ := by
  have hpoint : '.' ∉ " -007\t".toList := by decide
  have hmark : '_' ∉ " -007\t".toList := by decide
  have hpoint' : '.' ∉ "+-7".toList := by decide
  have hmark' : '_' ∉ "+-7".toList := by decide
  have hreal : '.' ∈ " 7.0".toList := by decide
  obtain ⟨hsame, -, -⟩ := integer_readers_agree .usd " -007\t"
  obtain ⟨hsigns, -, -⟩ := integer_readers_agree .usd "+-7"
  obtain ⟨-, hrefused, -⟩ := integer_readers_agree .usd " 7.0"
  obtain ⟨-, -, hgrouped⟩ := integer_readers_agree .usd " -0_0__7_"
  obtain ⟨-, -, hleading⟩ := integer_readers_agree .usd "-_7"
  have hnone : ∀ m, readMagnitude .usd "+-7" ≠ .ok ⟨m⟩ := by
    intro m hm
    have hread := ((hsigns hpoint' hmark').1 m).mp hm
    rw [show Decimal.read "+-7" = .error (.invalidDecimal "+-7") by decide] at hread
    cases hread
  have herrors := (hsigns hpoint' hmark').2 hnone
  let l : Literal := ⟨.minus, ['0', '0', '7'], none, rfl, by simp, by simp⟩
  have hwritten := (hgrouped (-7)).mpr ⟨by decide, l, rfl, by decide, by decide⟩
  refine ⟨hpoint, hmark, ((hsame hpoint hmark).1 _).mpr (by decide), hpoint', hmark', herrors.1,
    herrors.2, hreal, hrefused hreal, hwritten, ?_⟩
  intro hread
  exact ((hleading _).mp hread).1 (by decide)

end Amount

end FixedDecimal
