import FixedDecimal.Text.Positional
import Mathlib.Algebra.Ring.Nat
import Mathlib.Data.List.DropRight

/-! Digit texts and the numbers they write. No two digit texts of one length write the same number,
and of all that write it only one has no zero to spare. -/
namespace FixedDecimal.Text

theorem toNat_of_isDigit {c : Char} (h : c.isDigit = true) : 48 ≤ c.toNat ∧ c.toNat ≤ 57 :=
  Char.isDigit_iff_toNat.mp h

theorem allDigits_cons {c : Char} {cs : List Char} :
    allDigits (c :: cs) = true ↔ c.isDigit = true ∧ allDigits cs = true := by
  simp [allDigits]

theorem exists_digits_cons (n : ℕ) : ∃ c cs, digits n = c :: cs ∧ c.isDigit = true := by
  obtain ⟨c, cs, hcons⟩ := List.exists_cons_of_ne_nil (digits_ne_nil n)
  exact ⟨c, cs, hcons, (allDigits_cons.mp (hcons ▸ allDigits_digits n)).1⟩

theorem ofDigits_singleton (c : Char) : ofDigits [c] = c.toNat - 48 := by
  simp [ofDigits, Nat.ofDigitChars_cons, Nat.ofDigitChars_nil]

theorem ofDigits_cons (c : Char) (cs : List Char) :
    ofDigits (c :: cs) = 10 ^ cs.length * (c.toNat - 48) + ofDigits cs := by
  rw [← ofDigits_singleton]
  exact ofDigits_append [c] cs

theorem ofDigits_concat (cs : List Char) (c : Char) :
    ofDigits (cs ++ [c]) = 10 * ofDigits cs + (c.toNat - 48) := by
  rw [ofDigits_append, ofDigits_singleton]
  rfl

theorem ofDigits_lt {cs : List Char} (h : allDigits cs = true) : ofDigits cs < 10 ^ cs.length := by
  induction cs with
  | nil => simp [ofDigits_nil]
  | cons c rest ih =>
    obtain ⟨hc, hrest⟩ := allDigits_cons.mp h
    have hbound := toNat_of_isDigit hc
    have hmul := Nat.mul_le_mul_left (10 ^ rest.length) (by omega : c.toNat - 48 ≤ 9)
    have hlt := ih hrest
    rw [ofDigits_cons, List.length_cons, Nat.pow_succ]
    omega

theorem ofDigits_inj {cs ds : List Char} (hlen : cs.length = ds.length) (hc : allDigits cs = true)
    (hd : allDigits ds = true) (h : ofDigits cs = ofDigits ds) : cs = ds := by
  induction cs generalizing ds with
  | nil => exact (List.length_eq_zero_iff.mp hlen.symm).symm
  | cons c cs ih =>
    cases ds with
    | nil => simp at hlen
    | cons d ds =>
      obtain ⟨hc, hcs⟩ := allDigits_cons.mp hc
      obtain ⟨hd, hds⟩ := allDigits_cons.mp hd
      rw [List.length_cons, List.length_cons, Nat.succ_inj] at hlen
      rw [ofDigits_cons, ofDigits_cons, hlen] at h
      have hhead : c.toNat - 48 = d.toNat - 48 := by
        have hdiv := congrArg (· / 10 ^ ds.length) h
        simpa [Nat.mul_add_div (Nat.pow_pos (by decide : 0 < 10)),
          Nat.div_eq_of_lt (hlen ▸ ofDigits_lt hcs), Nat.div_eq_of_lt (ofDigits_lt hds)] using hdiv
      have hcd : c = d := by
        have hc := toNat_of_isDigit hc
        have hd := toNat_of_isDigit hd
        exact Char.toNat_inj.mp (by omega)
      rw [hhead] at h
      rw [hcd, ih hlen hcs hds (Nat.add_left_cancel h)]

/-! ## Texts with no zero to spare -/

theorem paddedDigits_ofDigits {cs : List Char} (hne : cs ≠ []) (h : allDigits cs = true) :
    paddedDigits cs.length (ofDigits cs) = cs :=
  ofDigits_inj (length_paddedDigits (List.length_pos_of_ne_nil hne) (ofDigits_lt h))
    (allDigits_paddedDigits _ _) h (ofDigits_paddedDigits _ _)

theorem digits_ofDigits {cs : List Char} (hne : cs ≠ []) (h : allDigits cs = true)
    (hzero : cs.head? = some '0' → cs = ['0']) : digits (ofDigits cs) = cs := by
  have hpad := paddedDigits_ofDigits hne h
  rw [paddedDigits] at hpad
  cases hk : cs.length - (digits (ofDigits cs)).length with
  | zero => rwa [hk] at hpad
  | succ k =>
    have hone := hzero (by rw [← hpad, hk]; rfl)
    have hpos := List.length_pos_of_ne_nil (digits_ne_nil (ofDigits cs))
    rw [congrArg List.length hone, List.length_singleton] at hk
    omega

/-- Only zero has a zero for its first digit. -/
theorem digits_of_head_zero {n : ℕ} (h : (digits n).head? = some '0') : digits n = ['0'] := by
  obtain ⟨rest, hrest⟩ := List.head?_eq_some_iff.mp h
  have hdigits := (allDigits_cons.mp (hrest ▸ allDigits_digits n)).2
  have hn := ofDigits_digits n
  rw [hrest, ofDigits_cons, show '0'.toNat - 48 = 0 from rfl, Nat.mul_zero, Nat.zero_add] at hn
  cases rest with
  | nil => exact hrest
  | cons c cs =>
    have hshort : (digits n).length ≤ (c :: cs).length :=
      (Nat.length_toDigits_le_iff (by decide) (Nat.succ_pos _)).mpr (hn ▸ ofDigits_lt hdigits)
    rw [hrest, List.length_cons] at hshort
    omega

/-! ## Zeros at the end -/

theorem dropFinalZeros_eq (cs : List Char) : dropFinalZeros cs = cs.rdropWhile (· == '0') := rfl

theorem dropFinalZeros_append (cs : List Char) :
    ∃ k, dropFinalZeros cs ++ List.replicate k '0' = cs := by
  refine ⟨(cs.rtakeWhile (· == '0')).length, ?_⟩
  have hzeros : ∀ c ∈ cs.rtakeWhile (· == '0'), c = '0' := fun c hc =>
    eq_of_beq (List.mem_rtakeWhile_imp (p := (· == '0')) hc)
  rw [← List.eq_replicate_of_mem hzeros]
  exact List.rdropWhile_append_rtakeWhile

theorem getLast?_dropFinalZeros (cs : List Char) : (dropFinalZeros cs).getLast? ≠ some '0' := by
  intro h
  obtain ⟨front, hfront⟩ := List.getLast?_eq_some_iff.mp h
  have hlast := List.rdropWhile_last_not (· == '0') cs
  simp [← dropFinalZeros_eq, hfront] at hlast

theorem dropFinalZeros_eq_self {cs : List Char} (h : cs.getLast? ≠ some '0') :
    dropFinalZeros cs = cs := by
  rw [dropFinalZeros_eq, List.rdropWhile_eq_self_iff]
  intro hne hzero
  exact h (by rw [List.getLast?_eq_some_getLast hne, eq_of_beq hzero])

theorem getLast?_fractionDigits (n places : ℕ) : (fractionDigits n places).getLast? ≠ some '0' := by
  unfold fractionDigits
  split
  · simp
  · exact getLast?_dropFinalZeros _

/-- The digits after the point fill their places when as many zeros are put back as were left
out. -/
theorem fractionDigits_filled (n places : ℕ) :
    ∃ k, (fractionDigits n places).length + k = places ∧
      allDigits (fractionDigits n places) = true ∧
      10 ^ k * ofDigits (fractionDigits n places) = n % 10 ^ places := by
  by_cases hp : places = 0
  · refine ⟨0, ?_⟩
    simp [fractionDigits, hp, allDigits, ofDigits_nil, Nat.mod_one]
  · have hlt : n % 10 ^ places < 10 ^ places := Nat.mod_lt _ (Nat.pow_pos (by decide))
    obtain ⟨k, hk⟩ := dropFinalZeros_append (paddedDigits places (n % 10 ^ places))
    have hlen := congrArg List.length hk
    have hdigits := allDigits_paddedDigits places (n % 10 ^ places)
    have hread := ofDigits_paddedDigits places (n % 10 ^ places)
    rw [List.length_append, List.length_replicate,
      length_paddedDigits (Nat.pos_of_ne_zero hp) hlt] at hlen
    rw [← hk, allDigits_append, Bool.and_eq_true] at hdigits
    rw [← hk, ofDigits_append, ofDigits_zeros, List.length_replicate] at hread
    rw [fractionDigits, if_neg hp]
    exact ⟨k, hlen, hdigits.1, hread⟩

theorem allDigits_fractionDigits (n places : ℕ) : allDigits (fractionDigits n places) = true := by
  obtain ⟨k, -, hdigits, -⟩ := fractionDigits_filled n places
  exact hdigits

theorem fractionDigits_ofDigits {m : ℕ} {cs : List Char} (h : allDigits cs = true)
    (hlast : cs.getLast? ≠ some '0') :
    fractionDigits (10 ^ cs.length * m + ofDigits cs) cs.length = cs := by
  by_cases hne : cs = []
  · simp [hne, fractionDigits]
  · have hmod : (10 ^ cs.length * m + ofDigits cs) % Nat.pow 10 cs.length = ofDigits cs :=
      (Nat.mul_add_mod _ _ _).trans (Nat.mod_eq_of_lt (ofDigits_lt h))
    rw [fractionDigits, if_neg (mt List.length_eq_zero_iff.mp hne), hmod,
      paddedDigits_ofDigits hne h, dropFinalZeros_eq_self hlast]

end FixedDecimal.Text
