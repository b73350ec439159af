import FixedDecimal.Text.Blank
import Mathlib.Algebra.Ring.Nat
import Mathlib.Data.List.DropRight

/-! What trimming leaves of a text: the part between the blanks at its ends, whatever blanks it
has inside. -/
namespace FixedDecimal.Text

structure Solid (cs : List Char) : Prop where
  first : ∀ c ∈ cs.head?, isBlank c = false
  last : ∀ c ∈ cs.getLast?, isBlank c = false

theorem solid_of_forall {cs : List Char} (h : ∀ c ∈ cs, isBlank c = false) : Solid cs :=
  ⟨fun c hc => h c (List.mem_of_mem_head? hc), fun c hc => h c (List.mem_of_mem_getLast? hc)⟩

theorem trimEnd_eq (cs : List Char) : trimEnd cs = cs.rdropWhile isBlank := rfl

theorem trimStart_append {front : List Char} (h : ∀ c ∈ front, isBlank c = true)
    (cs : List Char) : trimStart (front ++ cs) = trimStart cs :=
  List.dropWhile_append_of_pos h

theorem trimEnd_append {back : List Char} (h : ∀ c ∈ back, isBlank c = true) (cs : List Char) :
    trimEnd (cs ++ back) = trimEnd cs := by
  induction back using List.reverseRecOn with
  | nil => rw [List.append_nil]
  | append_singleton back c ih =>
    rw [← List.append_assoc, trimEnd_append_blank _ (h c (by simp))]
    exact ih fun d hd => h d (by simp [hd])

theorem trim_between {front body back : List Char} (hfront : ∀ c ∈ front, isBlank c = true)
    (hback : ∀ c ∈ back, isBlank c = true) (hbody : Solid body) :
    trim (front ++ body ++ back) = body := by
  have hself := trim_eq_self hbody.first hbody.last
  cases body with
  | nil =>
    have hall : ∀ c ∈ front ++ back, isBlank c = true := fun c hc =>
      (List.mem_append.mp hc).elim (hfront c) (hback c)
    rw [List.append_nil, trim, trimStart, List.dropWhile_eq_nil_iff.mpr hall]
    rfl
  | cons c rest =>
    have hstart (tail : List Char) : trimStart (c :: tail) = c :: tail := by
      simp [trimStart, hbody.first c rfl]
    rw [trim, hstart] at hself
    rw [trim, List.append_assoc, trimStart_append hfront, List.cons_append, hstart,
      ← List.cons_append, trimEnd_append hback, hself]

/-- Only blanks are taken off. -/
theorem exists_trim (cs : List Char) : ∃ front back, cs = front ++ trim cs ++ back ∧
    (∀ c ∈ front, isBlank c = true) ∧ ∀ c ∈ back, isBlank c = true := by
  refine ⟨cs.takeWhile isBlank, (trimStart cs).rtakeWhile isBlank, ?_,
    fun c hc => List.mem_takeWhile_imp hc, fun c hc => List.mem_rtakeWhile_imp hc⟩
  rw [List.append_assoc, trim, trimEnd_eq, List.rdropWhile_append_rtakeWhile, trimStart,
    List.takeWhile_append_dropWhile]

theorem mem_trim {cs : List Char} {c : Char} (h : isBlank c = false) :
    c ∈ trim cs ↔ c ∈ cs := by
  obtain ⟨front, back, hcs, hfront, hback⟩ := exists_trim cs
  have hsolid : ∀ d, isBlank d = true → c ≠ d := fun d hd hcd => by simp [hcd, hd] at h
  conv_rhs => rw [hcs]
  rw [List.mem_append, List.mem_append]
  constructor
  · intro hc
    exact .inl (.inr hc)
  · intro hc
    obtain (hc | hc) | hc := hc
    · exact absurd rfl (hsolid c (hfront c hc))
    · exact hc
    · exact absurd rfl (hsolid c (hback c hc))

theorem trim_cons {c : Char} (h : isBlank c = false) (cs : List Char) :
    ∃ rest, trim (c :: cs) = c :: rest := by
  obtain ⟨front, back, hcs, hfront, hback⟩ := exists_trim (c :: cs)
  have hsolid : isBlank c ≠ true := by
    rw [h]
    exact Bool.false_ne_true
  cases front with
  | cons d front =>
    obtain rfl : c = d := (List.cons.inj hcs).1
    exact absurd (hfront c List.mem_cons_self) hsolid
  | nil =>
    cases ht : trim (c :: cs) with
    | nil =>
      rw [ht, List.append_nil, List.nil_append] at hcs
      exact absurd (hback c (hcs ▸ List.mem_cons_self)) hsolid
    | cons d rest =>
      rw [ht] at hcs
      obtain rfl : c = d := (List.cons.inj hcs).1
      exact ⟨rest, rfl⟩

end FixedDecimal.Text
