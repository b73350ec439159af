import FixedDecimal.Decimal.Literal
import FixedDecimal.Proofs.Text.Trim

/-! The language of decimal literals and what each of them writes. A text is read when a literal
stands in it with nothing but blanks around, and it is told as it was given when none does. -/
namespace FixedDecimal

inductive LiteralSign where
  | absent
  | plus
  | minus
deriving DecidableEq

def LiteralSign.chars : LiteralSign → List Char
  | .absent => []
  | .plus => ['+']
  | .minus => ['-']

structure Literal where
  sign : LiteralSign
  whole : List Char
  fraction : Option (List Char)
  whole_digits : Text.allDigits whole = true
  fraction_digits : ∀ cs ∈ fraction, Text.allDigits cs = true
  digits_ne_nil : whole ++ fraction.getD [] ≠ []

namespace Literal

def unsigned (l : Literal) : List Char :=
  match l.fraction with
  | none => l.whole
  | some cs => l.whole ++ '.' :: cs

def chars (l : Literal) : List Char := l.sign.chars ++ l.unsigned

def digits (l : Literal) : List Char := l.whole ++ l.fraction.getD []

def places (l : Literal) : ℕ := (l.fraction.getD []).length

def magnitude (l : Literal) : ℤ :=
  if l.sign = .minus then -(Text.ofDigits l.digits : ℤ) else Text.ofDigits l.digits

def StandsIn (l : Literal) (s : String) : Prop :=
  ∃ front back, s.toList = front ++ l.chars ++ back ∧
    (∀ c ∈ front, Text.isBlank c = true) ∧ ∀ c ∈ back, Text.isBlank c = true

end Literal

/-! ## Splitting at the point -/

namespace Decimal

theorem splitPoint_of_no_point {cs : List Char} (h : '.' ∉ cs) : splitPoint cs = (cs, []) := by
  have hne : ∀ c ∈ cs, (c != '.') = true := fun c hc => bne_iff_ne.mpr (ne_of_mem_of_not_mem hc h)
  rw [splitPoint, List.takeWhile_eq_self_iff.mpr hne, List.dropWhile_eq_nil_iff.mpr hne]
  rfl

theorem splitPoint_of_point {whole : List Char} (h : '.' ∉ whole) (fraction : List Char) :
    splitPoint (whole ++ '.' :: fraction) = (whole, fraction) := by
  have hne : ∀ c ∈ whole, (c != '.') = true := fun c hc =>
    bne_iff_ne.mpr (ne_of_mem_of_not_mem hc h)
  simp [splitPoint, List.takeWhile_append_of_pos hne, List.dropWhile_append_of_pos hne]

/-- A text is its part before the first point, or that part, a point and the part after it. -/
theorem splitPoint_cases (cs : List Char) :
    (cs = (splitPoint cs).1 ∧ (splitPoint cs).2 = []) ∨
      cs = (splitPoint cs).1 ++ '.' :: (splitPoint cs).2 := by
  have hsplit := List.takeWhile_append_dropWhile (p := (· != '.')) (l := cs)
  cases hd : cs.dropWhile (· != '.') with
  | nil =>
    rw [hd, List.append_nil] at hsplit
    exact .inl ⟨hsplit.symm, by rw [splitPoint, hd]; rfl⟩
  | cons c rest =>
    have hc : (c != '.') = false := by
      have hhead := List.head_dropWhile_not (· != '.') (by rw [hd]; exact List.cons_ne_nil c rest)
      simpa [hd] using hhead
    rw [hd, bne_eq_false_iff_eq.mp hc] at hsplit
    exact .inr (by rw [splitPoint, hd]; exact hsplit.symm)

/-- A text is its sign and what the sign is taken off. -/
theorem splitSign_cases (cs : List Char) :
    ∃ sign : LiteralSign, cs = sign.chars ++ (splitSign cs).2 ∧
      ((splitSign cs).1 = true ↔ sign = .minus) := by
  unfold splitSign
  split
  · exact ⟨.minus, rfl, by simp⟩
  · exact ⟨.plus, rfl, by simp⟩
  · exact ⟨.absent, rfl, by simp⟩

end Decimal

namespace Literal

variable (l : Literal)

theorem mem_unsigned {c : Char} (h : c ∈ l.unsigned) : c = '.' ∨ c.isDigit = true := by
  have hwhole : c ∈ l.whole → c.isDigit = true := List.all_eq_true.mp l.whole_digits c
  cases hf : l.fraction with
  | none =>
    simp only [unsigned, hf] at h
    exact .inr (hwhole h)
  | some cs =>
    have hfraction := List.all_eq_true.mp (l.fraction_digits cs hf) c
    simp only [unsigned, hf, List.mem_append, List.mem_cons] at h
    rcases h with h | h | h
    · exact .inr (hwhole h)
    · exact .inl h
    · exact .inr (hfraction h)

theorem exists_digit : ∃ c ∈ l.unsigned, c.isDigit = true := by
  obtain ⟨c, rest, hcons⟩ := List.exists_cons_of_ne_nil l.digits_ne_nil
  have hc : c ∈ l.whole ++ l.fraction.getD [] := hcons ▸ List.mem_cons_self
  have hwhole : c ∈ l.whole → c.isDigit = true := List.all_eq_true.mp l.whole_digits c
  cases hf : l.fraction with
  | none =>
    rw [hf, Option.getD_none, List.append_nil] at hc
    exact ⟨c, by rwa [unsigned, hf], hwhole hc⟩
  | some cs =>
    rw [hf, Option.getD_some, List.mem_append] at hc
    have hfraction := List.all_eq_true.mp (l.fraction_digits cs hf) c
    refine ⟨c, ?_, hc.elim hwhole hfraction⟩
    rw [unsigned, hf, List.mem_append]
    exact hc.imp_right (List.mem_cons_of_mem _)

theorem unsigned_ne_nil : l.unsigned ≠ [] := by
  obtain ⟨c, hc, -⟩ := l.exists_digit
  exact List.ne_nil_of_mem hc

theorem solid_chars : Text.Solid l.chars := by
  refine Text.solid_of_forall fun c hc => ?_
  rcases List.mem_append.mp hc with h | h
  · cases hs : l.sign <;> simp_all [LiteralSign.chars] <;> rfl
  · obtain rfl | hd := l.mem_unsigned h
    · rfl
    · exact Text.isBlank_of_isDigit hd

theorem splitSign_chars : Decimal.splitSign l.chars = (decide (l.sign = .minus), l.unsigned) := by
  rw [chars]
  cases hs : l.sign with
  | plus => rfl
  | minus => rfl
  | absent =>
    -- a digit or a point comes first, so no sign is taken off
    obtain ⟨c, rest, hcs⟩ := List.exists_cons_of_ne_nil l.unsigned_ne_nil
    have hc := l.mem_unsigned (hcs ▸ List.mem_cons_self)
    rw [LiteralSign.chars, List.nil_append, hcs]
    unfold Decimal.splitSign
    split
    · next h => simp_all
    · next h => simp_all
    · rfl

theorem splitPoint_unsigned : Decimal.splitPoint l.unsigned = (l.whole, l.fraction.getD []) := by
  have hpoint : '.' ∉ l.whole := fun h =>
    absurd (List.all_eq_true.mp l.whole_digits _ h) (by decide)
  cases hf : l.fraction with
  | none =>
    simp only [unsigned, hf]
    exact Decimal.splitPoint_of_no_point hpoint
  | some cs =>
    simp only [unsigned, hf]
    exact Decimal.splitPoint_of_point hpoint cs

theorem standsIn_iff {s : String} : l.StandsIn s ↔ Text.trim s.toList = l.chars := by
  constructor
  · rintro ⟨front, back, hs, hfront, hback⟩
    rw [hs, Text.trim_between hfront hback l.solid_chars]
  · intro h
    obtain ⟨front, back, hs, hfront, hback⟩ := Text.exists_trim s.toList
    exact ⟨front, back, h ▸ hs, hfront, hback⟩

end Literal

/-! ## Reading -/

namespace Decimal

theorem ofParts?_eq_some {negative : Bool} {whole fraction : List Char} {x : Decimal} :
    ofParts? negative whole fraction = some x ↔
      whole ++ fraction ≠ [] ∧ Text.allDigits whole = true ∧ Text.allDigits fraction = true ∧
        fraction.length < 2 ^ 32 ∧
        x = ⟨if negative then -(Text.ofDigits (whole ++ fraction) : ℤ)
          else Text.ofDigits (whole ++ fraction), UInt32.ofNat fraction.length⟩ := by
  have hempty : (whole.isEmpty && fraction.isEmpty) = true ↔ whole ++ fraction = [] := by simp
  unfold ofParts?
  split
  · next h =>
    simp [hempty.mp h]
  · next h =>
    have hne : whole ++ fraction ≠ [] := mt hempty.mpr h
    split
    · next hdigits =>
      simp only [Bool.and_eq_true, decide_eq_true_eq] at hdigits
      obtain ⟨⟨hwhole, hfraction⟩, hlt⟩ := hdigits
      constructor
      · intro hx
        exact ⟨hne, hwhole, hfraction, hlt, (Option.some.inj hx).symm⟩
      · rintro ⟨-, -, -, -, rfl⟩
        rfl
    · next hdigits =>
      simp only [Bool.and_eq_true, decide_eq_true_eq] at hdigits
      constructor
      · intro hx
        cases hx
      · rintro ⟨-, hwhole, hfraction, hlt, -⟩
        exact absurd ⟨⟨hwhole, hfraction⟩, hlt⟩ hdigits

/-- The literal that a sign, a whole part and a fraction make up; the empty fraction may come
with a point or without one. -/
theorem exists_literal (sign : LiteralSign) {body : List Char}
    (hne : (splitPoint body).1 ++ (splitPoint body).2 ≠ [])
    (hwhole : Text.allDigits (splitPoint body).1 = true)
    (hfraction : Text.allDigits (splitPoint body).2 = true) :
    ∃ l : Literal, l.sign = sign ∧ l.unsigned = body ∧ l.whole = (splitPoint body).1 ∧
      l.fraction.getD [] = (splitPoint body).2 := by
  obtain ⟨hbody, hnone⟩ | hbody := splitPoint_cases body
  · rw [hnone] at hne
    exact ⟨⟨sign, _, none, hwhole, by simp, hne⟩, rfl, hbody.symm, rfl, hnone.symm⟩
  · exact ⟨⟨sign, _, some _, hwhole, by simpa using hfraction, hne⟩, rfl, hbody.symm, rfl, rfl⟩

theorem ofChars?_eq_some {cs : List Char} {x : Decimal} :
    ofChars? cs = some x ↔ ∃ l : Literal, Text.trim cs = l.chars ∧ l.places < 2 ^ 32 ∧
      x = ⟨l.magnitude, UInt32.ofNat l.places⟩ := by
  have hparts : ofChars? cs = ofParts? (splitSign (Text.trim cs)).1
      (splitPoint (splitSign (Text.trim cs)).2).1 (splitPoint (splitSign (Text.trim cs)).2).2 := rfl
  rw [hparts, ofParts?_eq_some]
  constructor
  · rintro ⟨hne, hwhole, hfraction, hlt, rfl⟩
    obtain ⟨sign, htrim, hminus⟩ := splitSign_cases (Text.trim cs)
    obtain ⟨l, rfl, hbody, hw, hf⟩ := exists_literal sign hne hwhole hfraction
    refine ⟨l, by rw [Literal.chars, hbody, ← htrim], by rwa [Literal.places, hf], ?_⟩
    simp only [Literal.magnitude, Literal.digits, Literal.places, hw, hf, hminus]
  · rintro ⟨l, htrim, hlt, rfl⟩
    rw [htrim, l.splitSign_chars, l.splitPoint_unsigned]
    refine ⟨l.digits_ne_nil, l.whole_digits, ?_, hlt, ?_⟩
    · cases hf : l.fraction with
      | none => rfl
      | some cs => exact l.fraction_digits cs hf
    · simp only [decide_eq_true_eq]
      rfl

theorem read_eq_ok_iff {s : String} {x : Decimal} :
    read s = .ok x ↔ ∃ l : Literal, l.StandsIn s ∧ l.places < 2 ^ 32 ∧
      x = ⟨l.magnitude, UInt32.ofNat l.places⟩ := by
  simp only [Literal.standsIn_iff, ← ofChars?_eq_some]
  unfold read
  split <;> simp_all

theorem read_eq_error_iff {s : String} {e : Error} :
    read s = .error e ↔ (¬∃ x, read s = .ok x) ∧ e = .invalidDecimal s := by
  unfold read
  split <;> simp [eq_comm]

/-- What is read of a text, and what is said of a text that cannot be read. -/
theorem read_literal (s : String) :
    (∀ x, read s = .ok x ↔ ∃ l : Literal, l.StandsIn s ∧ l.places < 2 ^ 32 ∧
      x.precision.toNat = l.places ∧ x.magnitude = l.magnitude) ∧
    ∀ e, read s = .error e ↔
      (¬∃ l : Literal, l.StandsIn s ∧ l.places < 2 ^ 32) ∧ e = .invalidDecimal s := by
  refine ⟨?_, ?_⟩
  · rintro ⟨m, p⟩
    rw [read_eq_ok_iff]
    refine exists_congr fun l => and_congr_right fun _ => and_congr_right fun hlt => ?_
    have hp : p.toNat = l.places ↔ p = UInt32.ofNat l.places := by
      rw [← UInt32.toNat_inj, UInt32.toNat_ofNat_of_lt' hlt]
    rw [hp, Decimal.mk.injEq, and_comm]
  · intro e
    have hok : (∃ x, read s = .ok x) ↔ ∃ l : Literal, l.StandsIn s ∧ l.places < 2 ^ 32 := by
      simp only [read_eq_ok_iff]
      constructor
      · rintro ⟨x, l, hs, hlt, -⟩
        exact ⟨l, hs, hlt⟩
      · rintro ⟨l, hs, hlt⟩
        exact ⟨_, l, hs, hlt, rfl⟩
    rw [read_eq_error_iff, hok]

/-- Blanks of any kind may stand around a literal, and its fraction may be empty; inside it no
blank is let through. -/
example : read "\u3000+5.\t" = .ok ⟨5, 0⟩ ∧ read "-.50" = .ok ⟨-50, 2⟩ ∧
    read " 1 .5 " = .error (.invalidDecimal " 1 .5 ") := by decide

end Decimal

end FixedDecimal
