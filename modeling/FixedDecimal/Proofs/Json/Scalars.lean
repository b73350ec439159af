import FixedDecimal.Json.Value
import FixedDecimal.Proofs.Text.Digits
import Mathlib.Tactic.Ring

/-! Texts of JSON strings and integers, and how they are read: each as what it says, whatever
follows it. -/
namespace FixedDecimal.Json

/-! ## Strings -/

def IsUnescaped (c : Char) : Prop := 0x20 ≤ c.toNat ∧ c ≠ '"' ∧ c ≠ '\\'

instance (c : Char) : Decidable (IsUnescaped c) := inferInstanceAs (Decidable (_ ∧ _))

inductive Spells : List Char → List Char → Prop
  | nil : Spells [] []
  | plain {c : Char} {cs name : List Char} (h : IsUnescaped c) (rest : Spells cs name) :
      Spells (c :: cs) (c :: name)
  | escape {c d : Char} {cs name : List Char} (h : Piece.simpleEscape? c = some d)
      (rest : Spells cs name) : Spells ('\\' :: c :: cs) (d :: name)
  | unit {a b c d : Char} {n : ℕ} {cs name : List Char} (h : Piece.unit? a b c d = some (.unit n))
      (hsingle : Piece.isLeading n = false ∧ Piece.isTrailing n = false) (rest : Spells cs name) :
      Spells ('\\' :: 'u' :: a :: b :: c :: d :: cs) (Char.ofNat n :: name)
  | pair {a b c d a' b' c' d' : Char} {n m : ℕ} {cs name : List Char}
      (h : Piece.unit? a b c d = some (.unit n)) (h' : Piece.unit? a' b' c' d' = some (.unit m))
      (hpair : Piece.isLeading n = true ∧ Piece.isTrailing m = true) (rest : Spells cs name) :
      Spells ('\\' :: 'u' :: a :: b :: c :: d :: '\\' :: 'u' :: a' :: b' :: c' :: d' :: cs)
        (Char.ofNat (0x10000 + (n - 0xD800) * 0x400 + (m - 0xDC00)) :: name)

theorem spells_unescaped {cs : List Char} (h : ∀ c ∈ cs, IsUnescaped c) : Spells cs cs := by
  induction cs with
  | nil => exact .nil
  | cons c cs ih =>
    obtain ⟨hc, hcs⟩ := List.forall_mem_cons.mp h
    exact .plain hc (ih hcs)

namespace Piece

variable {pieces : List Piece} {cs after : List Char}

theorem readAll_plain {c : Char} (h : IsUnescaped c) (hread : readAll cs = some (pieces, after)) :
    readAll (c :: cs) = some (.plain c :: pieces, after) := by
  obtain ⟨hcontrol, hquote, hslash⟩ := h
  unfold readAll
  split
  · next heq => cases heq
  · next heq => exact absurd (List.cons.inj heq).1 hquote
  · next heq => exact absurd (List.cons.inj heq).1 hslash
  · next heq => exact absurd (List.cons.inj heq).1 hslash
  · next heq =>
    obtain ⟨rfl, rfl⟩ := List.cons.inj heq
    rw [if_neg (by simp [hslash, Nat.not_lt.mpr hcontrol]), hread]
    rfl

theorem readAll_escape {c d : Char} (h : simpleEscape? c = some d)
    (hread : readAll cs = some (pieces, after)) :
    readAll ('\\' :: c :: cs) = some (.plain d :: pieces, after) := by
  have hu : c ≠ 'u' := by
    rintro rfl
    cases h
  rw [readAll]
  · rw [h, hread]
    rfl
  · intro _ _ _ _ _ hc
    exact absurd hc hu

theorem readAll_unit {a b c d : Char} {piece : Piece} (h : unit? a b c d = some piece)
    (hread : readAll cs = some (pieces, after)) :
    readAll ('\\' :: 'u' :: a :: b :: c :: d :: cs) = some (piece :: pieces, after) := by
  rw [readAll, h, hread]
  rfl

theorem isTrailing_of_isLeading {n : ℕ} (h : isLeading n = true) : isTrailing n = false := by
  simp only [isLeading, isTrailing, Bool.and_eq_true, decide_eq_true_eq, Bool.and_eq_false_iff,
    decide_eq_false_iff_not] at h ⊢
  omega

/-- A string is read up to its closing quote, and its pieces are joined to what it spells. -/
theorem readAll_spells {name : List Char} (h : Spells cs name) (after : List Char) :
    ∃ pieces, readAll (cs ++ '"' :: after) = some (pieces, after) ∧ join? pieces = some name := by
  induction h with
  | nil => exact ⟨[], rfl, rfl⟩
  | plain hc _ ih =>
    obtain ⟨pieces, hread, hjoin⟩ := ih
    exact ⟨_, readAll_plain hc hread, by rw [join?, hjoin]; rfl⟩
  | escape hc _ ih =>
    obtain ⟨pieces, hread, hjoin⟩ := ih
    exact ⟨_, readAll_escape hc hread, by rw [join?, hjoin]; rfl⟩
  | unit hc hsingle _ ih =>
    obtain ⟨pieces, hread, hjoin⟩ := ih
    exact ⟨_, readAll_unit hc hread, by unfold join?; simp [hsingle, hjoin]⟩
  | pair hc hc' hpair _ ih =>
    obtain ⟨pieces, hread, hjoin⟩ := ih
    refine ⟨_, readAll_unit hc (readAll_unit hc' hread), ?_⟩
    simp [join?, isTrailing_of_isLeading hpair.1, hpair, hjoin]

end Piece
/-! ## Integers -/

def EndsNumber (rest : List Char) : Prop :=
  ∀ c ∈ rest.head?, c.isDigit = false ∧ c ≠ '.' ∧ c ≠ 'e' ∧ c ≠ 'E'

theorem endsNumber_cons {c : Char} (h : c.isDigit = false ∧ c ≠ '.' ∧ c ≠ 'e' ∧ c ≠ 'E')
    (rest : List Char) : EndsNumber (c :: rest) := by
  rintro d hd
  obtain rfl : c = d := Option.some.inj hd
  exact h

namespace NumberText

variable {rest : List Char}

def ofInt (n : ℤ) : NumberText := ⟨decide (n < 0), Text.digits n.natAbs, none, none⟩

theorem run?_digits (n : ℕ) (h : EndsNumber rest) :
    run? (Text.digits n ++ rest) = some (Text.digits n, rest) := by
  have hdigits : ∀ c ∈ Text.digits n, c.isDigit = true := fun _ => Text.isDigit_of_mem_digits
  have hrest : rest.takeWhile Char.isDigit = [] ∧ rest.dropWhile Char.isDigit = rest := by
    cases rest with
    | nil => exact ⟨rfl, rfl⟩
    | cons c cs => simp [(h c rfl).1]
  unfold run?
  rw [List.takeWhile_append_of_pos hdigits, List.dropWhile_append_of_pos hdigits, hrest.1,
    hrest.2, List.append_nil]
  split
  · next hnil => exact absurd hnil (Text.digits_ne_nil n)
  · rfl

theorem readWhole?_digits (n : ℕ) (h : EndsNumber rest) :
    readWhole? (Text.digits n ++ rest) = some (Text.digits n, rest) := by
  unfold readWhole?
  rw [run?_digits n h]
  split
  · next heq =>
    obtain ⟨hzero, -⟩ := Prod.mk.inj (Option.some.inj heq)
    have hone := Text.digits_of_head_zero (n := n) (by rw [hzero]; rfl)
    cases hone.symm.trans hzero
  · rfl

theorem readFraction?_none (h : EndsNumber rest) : readFraction? rest = some (none, rest) := by
  unfold readFraction?
  split
  · exact absurd rfl (h '.' rfl).2.1
  · rfl

theorem readExponent?_none (h : EndsNumber rest) : readExponent? rest = some (none, rest) := by
  cases rest with
  | nil => rfl
  | cons c cs =>
    obtain ⟨-, -, he, hE⟩ := h c rfl
    have hmark : ¬(c = 'e' ∨ c = 'E') := by simp [he, hE]
    exact if_neg hmark

theorem read?_integer (n : ℤ) (h : EndsNumber rest) :
    read? (Text.integer n ++ rest) = some (ofInt n, rest) := by
  have hunsigned : readWhole? (Text.digits n.natAbs ++ rest) = _ := readWhole?_digits n.natAbs h
  by_cases hn : n < 0
  · simp [read?, Text.integer, hn, hunsigned, readFraction?_none h, readExponent?_none h, ofInt]
  · obtain ⟨c, cs, hcons, hdigit⟩ := Text.exists_digits_cons n.natAbs
    have hhyphen : c ≠ '-' := by
      rintro rfl
      exact absurd hdigit (by decide)
    rw [hcons, List.cons_append] at hunsigned
    simp [read?, Text.integer, hn, hcons, hhyphen, hunsigned, readFraction?_none h,
      readExponent?_none h, ofInt]

theorem absorb_eq {ds : List Char} (hd : Text.allDigits ds = true) {n : ℕ}
    (hlt : 10 ^ ds.length * n + Text.ofDigits ds < 2 ^ 64) :
    absorb n ds = (10 ^ ds.length * n + Text.ofDigits ds, ds.length) := by
  induction ds generalizing n with
  | nil => simp [absorb, Text.ofDigits_nil]
  | cons c ds ih =>
    obtain ⟨-, hds⟩ := Text.allDigits_cons.mp hd
    have hnext : 10 ^ (c :: ds).length * n + Text.ofDigits (c :: ds) =
        10 ^ ds.length * (n * 10 + (c.toNat - '0'.toNat)) + Text.ofDigits ds := by
      rw [Text.ofDigits_cons, List.length_cons, pow_succ]
      change _ = 10 ^ ds.length * (n * 10 + (c.toNat - 48)) + _
      ring
    rw [hnext] at hlt ⊢
    have hsmall : n * 10 + (c.toNat - '0'.toNat) < UInt64.size :=
      ((Nat.le_mul_of_pos_left _ (Nat.pow_pos (by decide))).trans (Nat.le_add_right _ _)).trans_lt
        hlt
    rw [absorb, if_pos hsmall, ih hds hlt]
    rfl

end NumberText

/-- Integers of 64 bits are exact. -/
theorem Number.ofText?_ofInt {n : ℕ} (h : n < 2 ^ 64) :
    Number.ofText? (.ofInt n) = some (.integer n) := by
  have habsorb := NumberText.absorb_eq (Text.allDigits_digits n) (n := 0)
  rw [Nat.mul_zero, Nat.zero_add, Text.ofDigits_digits] at habsorb
  simp [Number.ofText?, NumberText.ofInt, habsorb h]

end FixedDecimal.Json
