import FixedDecimal.Proofs.Expression.Grammar
import Mathlib.Data.Nat.Find

/-! Where the reading of an expression stops. The first word that cannot stand where it stands
decides the error, whatever follows it; without such a word only the end can be at fault. -/
namespace FixedDecimal.Expression

def noValue : Error := .invalidExpression "expected at least one value"

def missingAfter (word : String) : Error := .invalidExpression s!"missing value after {word}"

/-- A word that cannot stand at its place, counted from zero, and the error that tells it. A second
division is told at the value after it, for that value is read first. -/
inductive Offence (words : List String) : Nat → Error → Prop
  | value {i : Nat} {word text : String} (heven : i % 2 = 0) (hword : words[i]? = some word)
      (h : readValue word = .error (.invalidDecimal text)) :
      Offence words i (.invalidDecimal s!"argument {i + 1}: {text}")
  | operator {i : Nat} {word : String} (hodd : i % 2 = 1) (hword : words[i]? = some word)
      (h : Operator.ofWord? word = none) :
      Offence words i
        (.invalidExpression s!"expected an operator at argument {i + 1}, found {word}")
  | division {i j : Nat} {word : String} {x : Decimal} (hfirst : DivisionAt words j) (hlt : j < i)
      (hsecond : DivisionAt words i) (hword : words[i + 1]? = some word)
      (h : readValue word = .ok x) : Offence words (i + 1) .consecutiveDenominator

structure FirstOffence (words : List String) (i : Nat) (e : Error) : Prop where
  offence : Offence words i e
  first : ∀ j < i, ∀ e', ¬Offence words j e'

/-! ## The errors apart -/

theorem missingAfter_inj {v w : String} (h : missingAfter v = missingAfter w) : v = w := by
  simpa [missingAfter, toString] using h

theorem noValue_ne_missingAfter (word : String) : noValue ≠ missingAfter word := by
  intro h
  have hchars := congrArg String.toList (Error.invalidExpression.inj h)
  simp [toString] at hchars

variable {words before : List String} {word next : String} {i k : Nat} {e : Error}

theorem Offence.ne_noValue (h : Offence words i e) : e ≠ noValue := by
  cases h with
  | value => nofun
  | operator =>
    intro h
    have hchars := congrArg String.toList (Error.invalidExpression.inj h)
    simp [toString] at hchars
  | division => nofun

theorem Offence.ne_missingAfter (h : Offence words i e) (last : String) :
    e ≠ missingAfter last := by
  cases h with
  | value => nofun
  | operator =>
    intro h
    have hchars := congrArg String.toList (Error.invalidExpression.inj h)
    simp [toString] at hchars
  | division => nofun

theorem readValue_eq_error (h : readValue word = .error e) : ∃ text, e = .invalidDecimal text := by
  unfold readValue at h
  split at h
  · exact ⟨word, (Decimal.read_eq_error_iff.mp h).2⟩
  · next front after _ =>
    split at h
    · cases h
      exact ⟨_, rfl⟩
    · obtain hread | ⟨x, -, h⟩ := bind_eq_error.mp h
      · exact ⟨_, (Decimal.read_eq_error_iff.mp hread).2⟩
      · split at h
        · cases h
          exact ⟨_, rfl⟩
        · cases h

/-! ## An offence is a matter of the words up to it -/

theorem Offence.lt_length (h : Offence words i e) : i < words.length := by
  cases h with
  | value _ hword => exact (List.getElem?_eq_some_iff.mp hword).1
  | operator _ hword => exact (List.getElem?_eq_some_iff.mp hword).1
  | division _ _ _ hword => exact (List.getElem?_eq_some_iff.mp hword).1

theorem DivisionAt.congr {others : List String} (hsame : words[i]? = others[i]?)
    (h : DivisionAt words i) : DivisionAt others i := by
  obtain ⟨hodd, word, hword, hdiv⟩ := h
  exact ⟨hodd, word, hsame ▸ hword, hdiv⟩

theorem getElem?_of_take {n : Nat} (h : (words.take n)[i]? = some word) :
    i < n ∧ words[i]? = some word := by
  rw [List.getElem?_take] at h
  split at h
  · next hlt => exact ⟨hlt, h⟩
  · cases h

theorem DivisionAt.of_take {n : Nat} (h : DivisionAt (words.take n) i) :
    i < n ∧ DivisionAt words i := by
  obtain ⟨hodd, word, hword, hdiv⟩ := h
  obtain ⟨hlt, hword⟩ := getElem?_of_take hword
  exact ⟨hlt, hodd, word, hword, hdiv⟩

theorem Offence.congr {others : List String} (hsame : ∀ k ≤ i, words[k]? = others[k]?)
    (h : Offence words i e) : Offence others i e := by
  cases h with
  | value heven hword h => exact .value heven (hsame _ (Nat.le_refl _) ▸ hword) h
  | operator hodd hword h => exact .operator hodd (hsame _ (Nat.le_refl _) ▸ hword) h
  | division hfirst hlt hsecond hword h =>
    exact .division (hfirst.congr (hsame _ (by omega))) hlt (hsecond.congr (hsame _ (by omega)))
      (hsame _ (Nat.le_refl _) ▸ hword) h

theorem FirstOffence.append (h : FirstOffence words i e) (more : List String) :
    FirstOffence (words ++ more) i e := by
  have hlen := h.offence.lt_length
  have hsame : ∀ k ≤ i, words[k]? = (words ++ more)[k]? :=
    fun k hk => (List.getElem?_append_left (by omega)).symm
  refine ⟨h.offence.congr hsame, fun j hj e' he' => h.first j hj e' (he'.congr fun k hk => ?_)⟩
  exact (hsame k (by omega)).symm

theorem exists_firstOffence (h : ∃ i e, Offence words i e) : ∃ i e, FirstOffence words i e := by
  classical
  obtain ⟨e, he⟩ := Nat.find_spec h
  exact ⟨Nat.find h, e, he, fun j hj e' he' => Nat.find_min h hj ⟨e', he'⟩⟩

/-! ## Words without an offence are in order -/

theorem exists_value (heven : i % 2 = 0) (hword : words[i]? = some word)
    (hnone : ∀ e, ¬Offence words i e) : ∃ x, readValue word = .ok x := by
  cases hread : readValue word with
  | ok x => exact ⟨x, rfl⟩
  | error e =>
    obtain ⟨text, rfl⟩ := readValue_eq_error hread
    exact absurd (.value heven hword hread) (hnone _)

theorem exists_operator (hodd : i % 2 = 1) (hword : words[i]? = some word)
    (hnone : ∀ e, ¬Offence words i e) : ∃ operator, Operator.ofWord? word = some operator := by
  cases hread : Operator.ofWord? word with
  | some operator => exact ⟨operator, rfl⟩
  | none => exact absurd (.operator hodd hword hread) (hnone _)

section
variable {n : Nat} (hodd : n % 2 = 1) (hle : n ≤ words.length)
  (hnone : ∀ j < n, ∀ e, ¬Offence words j e)
include hodd hle hnone

/-- Of two divisions the later one would be an offence. -/
theorem divisionAt_le {j : Nat} (hj : j < n) (hfirst : DivisionAt words i)
    (hsecond : DivisionAt words j) : j ≤ i := by
  by_contra hlt
  have hplace := hsecond.1
  -- `n` is odd as `j` is, so the value after the second division stands before `n` too
  have hnext : j + 1 < n := by omega
  have hword := List.getElem?_eq_getElem (l := words) (i := j + 1) (by omega)
  obtain ⟨x, hx⟩ := exists_value (by omega) hword (hnone _ hnext)
  exact hnone _ hnext _ (.division hfirst (by omega) hsecond hword hx)

theorem grammatical_take : Grammatical (words.take n) where
  odd := by
    rw [List.length_take, Nat.min_eq_left hle]
    exact hodd
  values := by
    intro i word hi hword
    obtain ⟨hlt, hword⟩ := getElem?_of_take hword
    exact exists_value hi hword (hnone i hlt)
  operators := by
    intro i word hi hword
    obtain ⟨hlt, hword⟩ := getElem?_of_take hword
    exact exists_operator hi hword (hnone i hlt)
  one_division := by
    intro i j hi hj
    obtain ⟨hin, hi⟩ := hi.of_take
    obtain ⟨hjn, hj⟩ := hj.of_take
    exact Nat.le_antisymm (divisionAt_le hodd hle hnone hin hj hi)
      (divisionAt_le hodd hle hnone hjn hi hj)

end

/-! ## Reading on after words that are in order -/

theorem extend_append {c d : Calculator} {position : Nat} (h : extend c position words = .ok d)
    (rest : List String) :
    extend c position (words ++ rest) = extend d (position + words.length) rest := by
  fun_induction extend c position words with
  | case1 c position =>
    cases h
    rfl
  | case2 c position word =>
    obtain ⟨_, _, ⟨⟩⟩ := bind_eq_ok.mp h
  | case3 c position word next rest' ih =>
    obtain ⟨operator, ho, h⟩ := bind_eq_ok.mp h
    obtain ⟨x, hx, h⟩ := bind_eq_ok.mp h
    obtain ⟨b, hb, h⟩ := bind_eq_ok.mp h
    rw [List.cons_append, List.cons_append, extend, ho, ok_bind, hx, ok_bind, hb, ok_bind, ih b h,
      List.length_cons, List.length_cons]
    congr 1
    omega

theorem read_append {c : Calculator} (h : read before = .ok c) (rest : List String) :
    read (before ++ rest) = extend c (before.length + 1) rest := by
  cases before with
  | nil => cases h
  | cons word before =>
    obtain ⟨x, hx, h⟩ := bind_eq_ok.mp h
    rw [List.cons_append, read, hx, ok_bind, extend_append h, List.length_cons]
    congr 1
    omega

theorem drop_of_getElem? (h : words[k]? = some word) :
    words.drop k = word :: words.drop (k + 1) := by
  obtain ⟨hlt, rfl⟩ := List.getElem?_eq_some_iff.mp h
  exact List.drop_eq_getElem_cons hlt

theorem read_from (hodd : k % 2 = 1) (hle : k ≤ words.length)
    (hnone : ∀ j < k, ∀ e, ¬Offence words j e) :
    ∃ c, read (words.take k) = .ok c ∧ read words = extend c (k + 1) (words.drop k) := by
  obtain ⟨c, hc⟩ := exists_read_iff.mpr (grammatical_take hodd hle hnone)
  have hread := read_append hc (words.drop k)
  rw [List.take_append_drop, List.length_take, Nat.min_eq_left hle] at hread
  exact ⟨c, hc, hread⟩

theorem denominator_of_divisionAt {c : Calculator} (h : read words = .ok c)
    (hdivision : DivisionAt words i) : c.numerator.seed.isSome ∧ c.denominator.isSome := by
  obtain ⟨first, rest, seed, steps, rfl, -, hspells, harranges⟩ := read_eq_ok.mp h
  obtain ⟨k, -, x, hk⟩ := (hspells.divisionAt_iff first).mp hdivision
  cases harranges with
  | whole hnone => exact absurd rfl (hnone _ (List.mem_of_getElem? hk))
  | quotient => exact ⟨rfl, rfl⟩

/-! ## What the offence does to the reading -/

section
variable {c : Calculator} {position : Nat} {operator : Operator}

theorem extend_of_no_operator (h : Operator.ofWord? word = none) (rest : List String) :
    extend c position (word :: rest) = .error
      (.invalidExpression s!"expected an operator at argument {position}, found {word}") := by
  cases rest <;> simp only [extend, operatorAt, h, error_bind]

theorem extend_of_missing (h : Operator.ofWord? word = some operator) :
    extend c position [word] = .error (missingAfter word) := by
  simp only [extend, operatorAt, h, ok_bind, missingAfter]

theorem extend_of_refused {text : String} (ho : Operator.ofWord? word = some operator)
    (hx : readValue next = .error (.invalidDecimal text)) (rest : List String) :
    extend c position (word :: next :: rest) =
      .error (.invalidDecimal s!"argument {position + 1}: {text}") := by
  simp only [extend, operatorAt, ho, ok_bind, valueAt, hx]
  rfl

theorem extend_of_second_division {x : Decimal} (ho : Operator.ofWord? word = some .div)
    (hx : readValue next = .ok x) (hs : c.numerator.seed.isSome) (hd : c.denominator.isSome)
    (rest : List String) :
    extend c position (word :: next :: rest) = .error .consecutiveDenominator := by
  simp only [extend, operatorAt, ho, ok_bind, valueAt_eq_ok.mpr hx, Calculator.apply,
    Calculator.divideBy_of_denominator hs hd, error_bind]

end

/-- The first offence is the error. -/
theorem FirstOffence.read_eq (h : FirstOffence words i e) : read words = .error e := by
  have hlen := h.offence.lt_length
  cases h.offence with
  | @value _ word text heven hword hx =>
    cases i with
    | zero =>
      have hwords := drop_of_getElem? hword
      rw [List.drop_zero] at hwords
      rw [hwords, read, valueAt, hx]
      rfl
    | succ k =>
      obtain ⟨c, -, hread⟩ :=
        read_from (by omega : k % 2 = 1) (by omega) fun j hj => h.first j (by omega)
      have hbefore := List.getElem?_eq_getElem (l := words) (i := k) (by omega)
      obtain ⟨operator, ho⟩ := exists_operator (by omega) hbefore (h.first k (by omega))
      rw [hread, drop_of_getElem? hbefore, drop_of_getElem? hword, extend_of_refused ho hx]
  | operator hodd hword ho =>
    obtain ⟨c, -, hread⟩ := read_from hodd (by omega) h.first
    rw [hread, drop_of_getElem? hword, extend_of_no_operator ho]
  | @division k j word x hfirst hlt hsecond hword hx =>
    obtain ⟨hodd, second, hat, hdiv⟩ := hsecond
    obtain ⟨c, hc, hread⟩ := read_from hodd (by omega) fun j hj => h.first j (by omega)
    have hopen := denominator_of_divisionAt hc
      (hfirst.congr (List.getElem?_take_of_lt hlt).symm)
    rw [hread, drop_of_getElem? hat, drop_of_getElem? hword,
      extend_of_second_division hdiv hx hopen.1 hopen.2]

theorem read_missing {operator : Operator} (h : Grammatical before)
    (ho : Operator.ofWord? word = some operator) :
    read (before ++ [word]) = .error (missingAfter word) := by
  obtain ⟨c, hc⟩ := exists_read_iff.mpr h
  rw [read_append hc, extend_of_missing ho]

/-- Without an offence only the end of the words can be at fault. -/
theorem read_of_no_offence (hnone : ∀ i e, ¬Offence words i e) :
    words = [] ∨ (∃ c, read words = .ok c) ∨
    ∃ before word operator, words = before ++ [word] ∧ Grammatical before ∧
      Operator.ofWord? word = some operator := by
  rcases Nat.mod_two_eq_zero_or_one words.length with heven | hodd
  · cases hlen : words.length with
    | zero => exact .inl (List.eq_nil_of_length_eq_zero hlen)
    | succ k =>
      rw [hlen] at heven
      have hlast := List.getElem?_eq_getElem (l := words) (i := k) (by omega)
      have hdrop := drop_of_getElem? hlast
      rw [List.drop_eq_nil_of_le (by omega : words.length ≤ k + 1)] at hdrop
      obtain ⟨operator, ho⟩ := exists_operator (by omega) hlast (hnone k)
      refine .inr (.inr ⟨words.take k, _, operator, ?_, ?_, ho⟩)
      · rw [← hdrop, List.take_append_drop]
      · exact grammatical_take (by omega) (by omega) fun j _ => hnone j
  · obtain ⟨c, hc⟩ :=
      exists_read_iff.mpr (grammatical_take hodd (Nat.le_refl _) fun j _ => hnone j)
    rw [List.take_length] at hc
    exact .inr (.inl ⟨c, hc⟩)

/-- The four outcomes of reading. -/
theorem read_cases (words : List String) :
    (∃ c, read words = .ok c) ∨ (∃ i e, FirstOffence words i e) ∨ words = [] ∨
    ∃ before word operator, words = before ++ [word] ∧ Grammatical before ∧
      Operator.ofWord? word = some operator := by
  by_cases h : ∃ i e, Offence words i e
  · exact .inr (.inl (exists_firstOffence h))
  · obtain hnil | hok | hmissing := read_of_no_offence fun i e he => h ⟨i, e, he⟩
    · exact .inr (.inr (.inl hnil))
    · exact .inl hok
    · exact .inr (.inr (.inr hmissing))

/-- The first offence is told, and nothing that follows it changes that; every refused value is an
invalid decimal. A value is missing exactly where words in order are followed by an operator and by
nothing else. -/
theorem read_fails_at_first_offence (words : List String) :
    (∀ e, (∃ i, FirstOffence words i e) ↔
      read words = .error e ∧ e ≠ noValue ∧ ∀ word, e ≠ missingAfter word) ∧
    (∀ e, read words = .error e → e ≠ noValue → (∀ word, e ≠ missingAfter word) →
      ∀ more, read (words ++ more) = .error e) ∧
    (∀ word e, readValue word = .error e → ∃ text, e = .invalidDecimal text) ∧
    ∀ word, read words = .error (missingAfter word) ↔
      ∃ before operator, words = before ++ [word] ∧ Grammatical before ∧
        Operator.ofWord? word = some operator := by
  have hfirst : ∀ e, (∃ i, FirstOffence words i e) ↔
      read words = .error e ∧ e ≠ noValue ∧ ∀ word, e ≠ missingAfter word := by
    intro e
    constructor
    · rintro ⟨i, h⟩
      exact ⟨h.read_eq, h.offence.ne_noValue, h.offence.ne_missingAfter⟩
    · rintro ⟨hread, hempty, hmissing⟩
      obtain ⟨c, hc⟩ | ⟨i, e', h⟩ | rfl | ⟨before, word, operator, rfl, hbefore, ho⟩ :=
        read_cases words
      · cases hc.symm.trans hread
      · obtain rfl := Except.error.inj (h.read_eq.symm.trans hread)
        exact ⟨i, h⟩
      · exact absurd (Except.error.inj hread).symm hempty
      · rw [read_missing hbefore ho] at hread
        exact absurd (Except.error.inj hread).symm (hmissing word)
  refine ⟨hfirst, ?_, fun _ _ => readValue_eq_error, ?_⟩
  · intro e hread hempty hmissing more
    obtain ⟨i, h⟩ := (hfirst e).mpr ⟨hread, hempty, hmissing⟩
    exact (h.append more).read_eq
  · intro word
    constructor
    · intro hread
      obtain ⟨c, hc⟩ | ⟨i, e', h⟩ | rfl | ⟨before, last, operator, rfl, hbefore, ho⟩ :=
        read_cases words
      · cases hc.symm.trans hread
      · have he := Except.error.inj (h.read_eq.symm.trans hread)
        exact absurd he (h.offence.ne_missingAfter word)
      · exact absurd (Except.error.inj hread) (noValue_ne_missingAfter word)
      · rw [read_missing hbefore ho] at hread
        obtain rfl := missingAfter_inj (Except.error.inj hread)
        exact ⟨before, operator, rfl, hbefore, ho⟩
    · rintro ⟨before, operator, rfl, hbefore, ho⟩
      exact read_missing hbefore ho

def faultyWords : List String := ["8", "/", "2", "DIV", "4", "%", "abc"]

theorem faultyWords_fail_at_first_offence :
    read faultyWords = .error .consecutiveDenominator ∧
    (∃ i, FirstOffence faultyWords i .consecutiveDenominator) ∧
    (∀ more, read (faultyWords ++ more) = .error .consecutiveDenominator) ∧
    (∃ text, readValue "abc" = .error (.invalidDecimal text)) ∧
    read (["8", "/", "2"] ++ ["DIV"]) = .error (missingAfter "DIV") := by
  have hread : read faultyWords = .error .consecutiveDenominator := rfl
  have hgrammar : Grammatical ["8", "/", "2"] := exists_read_iff.mp ⟨_, rfl⟩
  obtain ⟨hfirst, hmore, hrefused, -⟩ := read_fails_at_first_offence faultyWords
  obtain ⟨-, -, -, hmissing⟩ := read_fails_at_first_offence (["8", "/", "2"] ++ ["DIV"])
  obtain ⟨text, htext⟩ := hrefused "abc" _ rfl
  refine ⟨hread, (hfirst _).mpr ⟨hread, nofun, nofun⟩, hmore _ hread nofun nofun, ⟨text, ?_⟩, ?_⟩
  · rw [← htext]
    rfl
  · exact (hmissing "DIV").mpr ⟨["8", "/", "2"], .div, rfl, hgrammar, rfl⟩

end FixedDecimal.Expression
