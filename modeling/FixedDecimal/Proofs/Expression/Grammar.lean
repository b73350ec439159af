import FixedDecimal.Expression
import FixedDecimal.Proofs.Calculator.Reachable
import FixedDecimal.Proofs.Decimal.Literal

/-! What expressions are read, told by the places of their words, and what calculation they build.
No word can be taken for an operator and for a value. -/
namespace FixedDecimal

namespace Calculator

theorem apply_of_ne_div {operator : Operator} (h : operator ≠ .div) (c : Calculator) (x : Decimal) :
    c.apply operator x = .ok (c.append operator x) := by
  cases operator with
  | div => exact absurd rfl h
  | _ => rfl

def follow (c : Calculator) (steps : List Step) : Except Error Calculator :=
  steps.foldlM (fun c step => c.apply step.operator step.operand) c

theorem follow_append (c : Calculator) (before after : List Step) :
    c.follow (before ++ after) = c.follow before >>= fun d => d.follow after :=
  List.foldlM_append

/-- Steps that do not divide all go to the formula that is open. -/
theorem follow_undivided (c : Calculator) {steps : List Step}
    (h : ∀ step ∈ steps, step.operator ≠ .div) : c.follow steps = .ok (c.appendAll steps) := by
  induction steps generalizing c with
  | nil => rfl
  | cons step rest ih =>
    rw [follow, List.foldlM_cons, apply_of_ne_div (h step List.mem_cons_self), ok_bind]
    exact ih _ fun t ht => h t (List.mem_cons_of_mem step ht)

/-- Steps that do not divide make one formula; the first division opens the denominator, and no
other may follow. -/
inductive Arranges (seed : Decimal) : List Step → Calculator → Prop
  | whole {steps : List Step} (h : ∀ step ∈ steps, step.operator ≠ .div) :
      Arranges seed steps ⟨⟨some seed, steps⟩, none⟩
  | quotient {before after : List Step} {x : Decimal}
      (hbefore : ∀ step ∈ before, step.operator ≠ .div)
      (hafter : ∀ step ∈ after, step.operator ≠ .div) :
      Arranges seed (before ++ ⟨.div, x⟩ :: after)
        ⟨⟨some seed, before⟩, some ⟨some x, after⟩⟩

theorem undivided_or_first_division (steps : List Step) :
    (∀ step ∈ steps, step.operator ≠ .div) ∨ ∃ before x after,
      steps = before ++ ⟨.div, x⟩ :: after ∧ ∀ step ∈ before, step.operator ≠ .div := by
  cases h : steps.find? (·.operator == .div) with
  | none => exact .inl fun step hstep => by simpa using List.find?_eq_none.mp h step hstep
  | some step =>
    obtain ⟨operator, x⟩ := step
    obtain ⟨hdiv, before, after, hsplit, hbefore⟩ := List.find?_eq_some_iff_append.mp h
    obtain rfl : operator = .div := by simpa using hdiv
    exact .inr ⟨before, x, after, hsplit, fun t ht => by simpa using hbefore t ht⟩

variable {seed : Decimal} {steps : List Step} {c : Calculator}

theorem follow_numerator (seed : Decimal) (h : ∀ step ∈ steps, step.operator ≠ .div) :
    (first seed).follow steps = .ok ⟨⟨some seed, steps⟩, none⟩ := by
  rw [follow_undivided _ h, first, appendAll_numerator]
  rfl

theorem follow_division {before after : List Step} {x : Decimal}
    (hbefore : ∀ step ∈ before, step.operator ≠ .div) :
    (first seed).follow (before ++ ⟨.div, x⟩ :: after) =
      (⟨⟨some seed, before⟩, some (.seeded x)⟩ : Calculator).follow after := by
  have hopen : (⟨⟨some seed, before⟩, none⟩ : Calculator).apply .div x =
      .ok ⟨⟨some seed, before⟩, some (.seeded x)⟩ := divideBy_eq_ok.mpr ⟨rfl, rfl, rfl⟩
  rw [follow_append, follow_numerator seed hbefore, ok_bind, follow, List.foldlM_cons, hopen]
  rfl

theorem follow_denominator {f : Formula} (x : Decimal) {after : List Step}
    (h : ∀ step ∈ after, step.operator ≠ .div) :
    (⟨f, some (.seeded x)⟩ : Calculator).follow after = .ok ⟨f, some ⟨some x, after⟩⟩ := by
  rw [follow_undivided _ h, appendAll_denominator]
  rfl

theorem follow_first : (first seed).follow steps = .ok c ↔ Arranges seed steps c := by
  constructor
  · intro h
    obtain hnone | ⟨before, x, after, rfl, hbefore⟩ := undivided_or_first_division steps
    · cases (follow_numerator seed hnone).symm.trans h
      exact .whole hnone
    · rw [follow_division hbefore] at h
      obtain hafter | ⟨between, y, after, rfl, hbetween⟩ := undivided_or_first_division after
      · cases (follow_denominator x hafter).symm.trans h
        exact .quotient hbefore hafter
      · -- a second division finds the denominator open
        have hclosed : (⟨⟨some seed, before⟩, some ⟨some x, between⟩⟩ : Calculator).apply .div y =
            .error .consecutiveDenominator := divideBy_of_denominator rfl rfl y
        rw [follow_append, follow_denominator x hbetween, ok_bind, follow, List.foldlM_cons,
          hclosed] at h
        cases h
  · intro h
    cases h with
    | whole hnone => exact follow_numerator seed hnone
    | quotient hbefore hafter => rw [follow_division hbefore, follow_denominator _ hafter]

def DividesAt (steps : List Step) (k : Nat) : Prop := ∃ x, steps[k]? = some ⟨.div, x⟩

theorem dividesAt_quotient {before after : List Step} {x : Decimal} {k : Nat}
    (hbefore : ∀ step ∈ before, step.operator ≠ .div)
    (hafter : ∀ step ∈ after, step.operator ≠ .div)
    (h : DividesAt (before ++ ⟨.div, x⟩ :: after) k) : k = before.length := by
  obtain ⟨y, hk⟩ := h
  rcases Nat.lt_trichotomy k before.length with hlt | heq | hgt
  · rw [List.getElem?_append_left hlt] at hk
    exact absurd rfl (hbefore _ (List.mem_of_getElem? hk))
  · exact heq
  · rw [List.getElem?_append_right (Nat.le_of_lt hgt),
      show k - before.length = k - before.length - 1 + 1 by omega, List.getElem?_cons_succ] at hk
    exact absurd rfl (hafter _ (List.mem_of_getElem? hk))

theorem exists_arranges (seed : Decimal) (steps : List Step) :
    (∃ c, Arranges seed steps c) ↔ ∀ j k, DividesAt steps j → DividesAt steps k → j = k := by
  constructor
  · rintro ⟨c, h⟩ j k hj hk
    cases h with
    | whole hnone =>
      obtain ⟨x, hj⟩ := hj
      exact absurd rfl (hnone _ (List.mem_of_getElem? hj))
    | quotient hbefore hafter =>
      rw [dividesAt_quotient hbefore hafter hj, dividesAt_quotient hbefore hafter hk]
  · intro h
    obtain hnone | ⟨before, x, after, rfl, hbefore⟩ := undivided_or_first_division steps
    · exact ⟨_, .whole hnone⟩
    · refine ⟨_, .quotient hbefore ?_⟩
      rintro ⟨operator, y⟩ hstep hdiv
      obtain rfl : operator = .div := hdiv
      obtain ⟨k, hk⟩ := List.getElem?_of_mem hstep
      have hfirst : DividesAt (before ++ ⟨.div, x⟩ :: after) before.length := ⟨x, by simp⟩
      have hsecond : DividesAt (before ++ ⟨.div, x⟩ :: after) (before.length + (k + 1)) := by
        refine ⟨y, ?_⟩
        rw [List.getElem?_append_right (Nat.le_add_right _ _), Nat.add_sub_cancel_left,
          List.getElem?_cons_succ, hk]
      have hsame := h _ _ hfirst hsecond
      omega

end Calculator

namespace Expression

theorem operatorAt_eq_ok {position : Nat} {word : String} {operator : Operator} :
    operatorAt position word = .ok operator ↔ Operator.ofWord? word = some operator := by
  cases h : Operator.ofWord? word <;> simp [operatorAt, h]

theorem valueAt_eq_ok {position : Nat} {word : String} {x : Decimal} :
    valueAt position word = .ok x ↔ readValue word = .ok x := mapError_eq_ok

inductive Spells : List String → List Step → Prop
  | nil : Spells [] []
  | cons {word next : String} {rest : List String} {step : Step} {steps : List Step}
      (hoperator : Operator.ofWord? word = some step.operator)
      (hoperand : readValue next = .ok step.operand) (hrest : Spells rest steps) :
      Spells (word :: next :: rest) (step :: steps)

theorem extend_eq_ok {c last : Calculator} {position : Nat} {words : List String} :
    extend c position words = .ok last ↔ ∃ steps, Spells words steps ∧ c.follow steps = .ok last := by
  fun_induction extend c position words with
  | case1 c position =>
    constructor
    · intro h
      exact ⟨[], .nil, h⟩
    · rintro ⟨steps, ⟨⟩, h⟩
      exact h
  | case2 c position word =>
    simp only [bind_eq_ok]
    constructor
    · rintro ⟨_, _, ⟨⟩⟩
    · rintro ⟨steps, ⟨⟩, _⟩
  | case3 c position word next rest ih =>
    simp only [bind_eq_ok, operatorAt_eq_ok, valueAt_eq_ok]
    constructor
    · rintro ⟨operator, ho, x, hx, d, hstep, hrun⟩
      obtain ⟨steps, hspells, hfollow⟩ := (ih d).mp hrun
      refine ⟨⟨operator, x⟩ :: steps, .cons ho hx hspells, ?_⟩
      exact bind_eq_ok.mpr ⟨d, hstep, hfollow⟩
    · rintro ⟨_, hspells, hfollow⟩
      cases hspells with
      | cons ho hx hspells =>
        obtain ⟨d, hstep, hfollow⟩ := bind_eq_ok.mp hfollow
        exact ⟨_, ho, _, hx, d, hstep, (ih d).mpr ⟨_, hspells, hfollow⟩⟩

theorem read_eq_ok {words : List String} {c : Calculator} :
    read words = .ok c ↔ ∃ word rest seed steps, words = word :: rest ∧
      readValue word = .ok seed ∧ Spells rest steps ∧ Calculator.Arranges seed steps c := by
  cases words with
  | nil => simp [read]
  | cons word rest =>
    simp only [read, bind_eq_ok, valueAt_eq_ok, extend_eq_ok, Calculator.follow_first]
    constructor
    · rintro ⟨seed, hseed, steps, hspells, harranges⟩
      exact ⟨word, rest, seed, steps, rfl, hseed, hspells, harranges⟩
    · rintro ⟨_, _, seed, steps, ⟨⟩, hseed, hspells, harranges⟩
      exact ⟨seed, hseed, steps, hspells, harranges⟩

/-! ## The places of the words -/

theorem Spells.length {words : List String} {steps : List Step} (h : Spells words steps) :
    words.length = 2 * steps.length := by
  induction h with
  | nil => rfl
  | cons _ _ _ ih =>
    simp only [List.length_cons, ih]
    omega

theorem Spells.words_at {words : List String} {steps : List Step} (h : Spells words steps)
    {k : Nat} {step : Step} (hk : steps[k]? = some step) :
    ∃ word next, words[2 * k]? = some word ∧ words[2 * k + 1]? = some next ∧
      Operator.ofWord? word = some step.operator ∧ readValue next = .ok step.operand := by
  induction h generalizing k with
  | nil => cases hk
  | @cons word next rest first steps ho hx hrest ih =>
    cases k with
    | zero =>
      cases hk
      exact ⟨word, next, rfl, rfl, ho, hx⟩
    | succ k =>
      obtain ⟨w, n, hw, hn, hread⟩ := ih hk
      exact ⟨w, n, hw, hn, hread⟩

theorem Spells.exists_step {words : List String} {steps : List Step} (h : Spells words steps)
    {k : Nat} (hk : 2 * k < words.length) : ∃ step, steps[k]? = some step := by
  rw [h.length] at hk
  exact ⟨_, List.getElem?_eq_getElem (by omega)⟩

theorem Spells.operator_at {words : List String} {steps : List Step} (h : Spells words steps)
    {k : Nat} {word : String} (hw : words[2 * k]? = some word) :
    ∃ step, steps[k]? = some step ∧ Operator.ofWord? word = some step.operator := by
  obtain ⟨hlt, -⟩ := List.getElem?_eq_some_iff.mp hw
  obtain ⟨step, hk⟩ := h.exists_step hlt
  obtain ⟨w, -, hw', -, ho, -⟩ := h.words_at hk
  cases hw.symm.trans hw'
  exact ⟨step, hk, ho⟩

theorem Spells.value_at {words : List String} {steps : List Step} (h : Spells words steps)
    {k : Nat} {word : String} (hw : words[2 * k + 1]? = some word) :
    ∃ step, steps[k]? = some step ∧ readValue word = .ok step.operand := by
  obtain ⟨hlt, -⟩ := List.getElem?_eq_some_iff.mp hw
  obtain ⟨step, hk⟩ := h.exists_step (Nat.lt_of_succ_lt hlt)
  obtain ⟨-, w, -, hw', -, hx⟩ := h.words_at hk
  cases hw.symm.trans hw'
  exact ⟨step, hk, hx⟩

/-- Words that alternate spell steps. -/
theorem exists_spells {words : List String} (heven : words.length % 2 = 0)
    (hoperators : ∀ i word, i % 2 = 0 → words[i]? = some word →
      ∃ operator, Operator.ofWord? word = some operator)
    (hvalues : ∀ i word, i % 2 = 1 → words[i]? = some word → ∃ x, readValue word = .ok x) :
    ∃ steps, Spells words steps := by
  match words with
  | [] => exact ⟨[], .nil⟩
  | [word] => cases heven
  | word :: next :: rest =>
    obtain ⟨operator, ho⟩ := hoperators 0 word rfl rfl
    obtain ⟨x, hx⟩ := hvalues 1 next rfl rfl
    have hlen : rest.length % 2 = 0 := by
      simp only [List.length_cons] at heven
      omega
    obtain ⟨steps, hsteps⟩ := exists_spells hlen
      (fun i w hi hw => hoperators (i + 2) w (by omega) hw)
      (fun i w hi hw => hvalues (i + 2) w (by omega) hw)
    exact ⟨⟨operator, x⟩ :: steps, .cons ho hx hsteps⟩

def DivisionAt (words : List String) (i : Nat) : Prop :=
  i % 2 = 1 ∧ ∃ word, words[i]? = some word ∧ Operator.ofWord? word = some .div

theorem Spells.divisionAt_iff {rest : List String} {steps : List Step} (h : Spells rest steps)
    (word : String) {i : Nat} :
    DivisionAt (word :: rest) i ↔ ∃ k, i = 2 * k + 1 ∧ Calculator.DividesAt steps k := by
  constructor
  · rintro ⟨hodd, w, hw, hdiv⟩
    obtain ⟨k, rfl⟩ : ∃ k, i = 2 * k + 1 := ⟨i / 2, by omega⟩
    obtain ⟨⟨operator, x⟩, hk, ho⟩ := h.operator_at (k := k) hw
    cases ho.symm.trans hdiv
    exact ⟨k, rfl, x, hk⟩
  · rintro ⟨k, rfl, x, hk⟩
    obtain ⟨w, -, hw, -, ho, -⟩ := h.words_at hk
    exact ⟨by omega, w, hw, ho⟩

structure Grammatical (words : List String) : Prop where
  odd : words.length % 2 = 1
  values : ∀ i word, i % 2 = 0 → words[i]? = some word → ∃ x, readValue word = .ok x
  operators : ∀ i word, i % 2 = 1 → words[i]? = some word →
    ∃ operator, Operator.ofWord? word = some operator
  one_division : ∀ i j, DivisionAt words i → DivisionAt words j → i = j

theorem exists_read_iff {words : List String} :
    (∃ c, read words = .ok c) ↔ Grammatical words := by
  constructor
  · rintro ⟨c, h⟩
    obtain ⟨word, rest, seed, steps, rfl, hseed, hspells, harranges⟩ := read_eq_ok.mp h
    refine ⟨?_, ?_, ?_, ?_⟩
    · rw [List.length_cons, hspells.length]
      omega
    · intro i w hi hw
      cases i with
      | zero =>
        cases hw
        exact ⟨seed, hseed⟩
      | succ i =>
        obtain ⟨k, rfl⟩ : ∃ k, i = 2 * k + 1 := ⟨i / 2, by omega⟩
        obtain ⟨step, -, hx⟩ := hspells.value_at (k := k) hw
        exact ⟨step.operand, hx⟩
    · intro i w hi hw
      obtain ⟨k, rfl⟩ : ∃ k, i = 2 * k + 1 := ⟨i / 2, by omega⟩
      obtain ⟨step, -, ho⟩ := hspells.operator_at (k := k) hw
      exact ⟨step.operator, ho⟩
    · intro i j hi hj
      obtain ⟨k, rfl, hk⟩ := (hspells.divisionAt_iff word).mp hi
      obtain ⟨l, rfl, hl⟩ := (hspells.divisionAt_iff word).mp hj
      rw [(Calculator.exists_arranges seed steps).mp ⟨c, harranges⟩ k l hk hl]
  · intro h
    cases words with
    | nil => cases h.odd
    | cons word rest =>
      obtain ⟨seed, hseed⟩ := h.values 0 word rfl rfl
      have heven : rest.length % 2 = 0 := by
        have hodd := h.odd
        rw [List.length_cons] at hodd
        omega
      obtain ⟨steps, hspells⟩ := exists_spells heven
        (fun i w hi hw => h.operators (i + 1) w (by omega) hw)
        (fun i w hi hw => h.values (i + 1) w (by omega) hw)
      have hone : ∀ j k, Calculator.DividesAt steps j → Calculator.DividesAt steps k → j = k := by
        intro j k hj hk
        have hsame := h.one_division _ _ ((hspells.divisionAt_iff word).mpr ⟨j, rfl, hj⟩)
          ((hspells.divisionAt_iff word).mpr ⟨k, rfl, hk⟩)
        omega
      obtain ⟨c, harranges⟩ := (Calculator.exists_arranges seed steps).mpr hone
      exact ⟨c, read_eq_ok.mpr ⟨word, rest, seed, steps, rfl, hseed, hspells, harranges⟩⟩

end Expression

/-! ## Words that name an operator are no values: there is a digit in every value -/

theorem Decimal.exists_digit_of_read {s : String} {x : Decimal} (h : read s = .ok x) :
    ∃ c ∈ s.toList, c.isDigit = true := by
  obtain ⟨l, ⟨front, back, hs, -, -⟩, -, -⟩ := read_eq_ok_iff.mp h
  obtain ⟨c, hc, hdigit⟩ := l.exists_digit
  refine ⟨c, ?_, hdigit⟩
  rw [hs, Literal.chars]
  simp [hc]

theorem Text.toLower_of_isDigit {c : Char} (h : c.isDigit = true) : c.toLower = c := by
  have hnine : '9'.val.toNat = 57 := rfl
  have hcapital : 'A'.val.toNat = 65 := rfl
  simp only [Char.isDigit, Bool.and_eq_true, decide_eq_true_eq, UInt32.le_iff_toNat_le] at h
  unfold Char.toLower
  split
  · next hupper =>
    simp only [ge_iff_le, UInt32.le_iff_toNat_le] at hupper
    omega
  · rfl

theorem Operator.not_isDigit_of_ofWord? {word : String} {operator : Operator}
    (h : ofWord? word = some operator) {c : Char} (hc : c ∈ word.toList) : c.isDigit = false := by
  have hname : ∀ name : String, String.ofList (word.toList.map Char.toLower) = name →
      name.toList.any Char.isDigit = false → c.isDigit = false := by
    intro name he hnone
    cases hd : c.isDigit with
    | false => rfl
    | true =>
      have hlower : c ∈ word.toList.map Char.toLower :=
        List.mem_map.mpr ⟨c, hc, Text.toLower_of_isDigit hd⟩
      rw [← he, String.toList_ofList] at hnone
      exact absurd hd (List.any_eq_false.mp hnone c hlower)
  unfold ofWord? at h
  split at h
  case h_10 => cases h
  all_goals exact hname _ ‹_› rfl

namespace Expression

theorem mem_of_mem_splitMark? {cs : List Char} {c : Char} (h : c ∈ (splitMark? cs).1) : c ∈ cs := by
  unfold splitMark? at h
  split at h
  · exact h
  · exact (List.takeWhile_sublist _).subset h

theorem exists_digit_of_readValue {word : String} {x : Decimal} (h : readValue word = .ok x) :
    ∃ c ∈ word.toList, c.isDigit = true := by
  unfold readValue at h
  split at h
  · exact Decimal.exists_digit_of_read h
  · next front after hsplit =>
    split at h
    · cases h
    · obtain ⟨y, hy, -⟩ := bind_eq_ok.mp h
      obtain ⟨c, hc, hd⟩ := Decimal.exists_digit_of_read hy
      rw [String.toList_ofList] at hc
      exact ⟨c, mem_of_mem_splitMark? (hsplit ▸ hc), hd⟩

theorem not_operator_and_value {word : String} {operator : Operator} {x : Decimal} :
    ¬(Operator.ofWord? word = some operator ∧ readValue word = .ok x) := by
  rintro ⟨ho, hx⟩
  obtain ⟨c, hc, hd⟩ := exists_digit_of_readValue hx
  rw [Operator.not_isDigit_of_ofWord? ho hc] at hd
  cases hd

/-- The grammar of expressions and the calculation that each of them builds. -/
theorem read_grammar (words : List String) :
    ((∃ c, read words = .ok c) ↔ Grammatical words) ∧
    (∀ c, read words = .ok c → ∃ first seed steps,
      words[0]? = some first ∧ readValue first = .ok seed ∧ words.length = 2 * steps.length + 1 ∧
      (∀ k step, steps[k]? = some step → ∃ word next,
        words[2 * k + 1]? = some word ∧ words[2 * k + 2]? = some next ∧
        Operator.ofWord? word = some step.operator ∧ readValue next = .ok step.operand) ∧
      Calculator.Arranges seed steps c) ∧
    ∀ word operator x, ¬(Operator.ofWord? word = some operator ∧ readValue word = .ok x) := by
  refine ⟨exists_read_iff, ?_, fun _ _ _ => not_operator_and_value⟩
  intro c h
  obtain ⟨word, rest, seed, steps, rfl, hseed, hspells, harranges⟩ := read_eq_ok.mp h
  exact ⟨word, seed, steps, rfl, hseed, by rw [List.length_cons, hspells.length],
    fun k step hk => hspells.words_at hk, harranges⟩

def quotientWords : List String := ["1.5", "x", "2@3", "/", "4", "-", "0.5"]

def quotientOfChains : Calculator :=
  ⟨⟨some ⟨15, 1⟩, [⟨.mul, ⟨2000, 3⟩⟩]⟩, some ⟨some ⟨4, 0⟩, [⟨.sub, ⟨5, 1⟩⟩]⟩⟩

theorem quotientWords_grammar :
    Grammatical quotientWords ∧ ¬Grammatical ["1", "/", "2", "/", "3"] ∧
    read quotientWords = .ok quotientOfChains ∧
    ∃ steps, steps.length = 3 ∧ Calculator.Arranges ⟨15, 1⟩ steps quotientOfChains := by
  have hread : read quotientWords = .ok quotientOfChains := rfl
  have hrefused : read ["1", "/", "2", "/", "3"] = .error .consecutiveDenominator := rfl
  obtain ⟨hgrammar, hbuilt, -⟩ := read_grammar quotientWords
  obtain ⟨first, seed, steps, hfirst, hseed, hlen, -, harranges⟩ := hbuilt _ hread
  have hone : readValue "1.5" = .ok ⟨15, 1⟩ := rfl
  obtain rfl : "1.5" = first := Option.some.inj hfirst
  obtain rfl := Except.ok.inj (hone.symm.trans hseed)
  refine ⟨hgrammar.mp ⟨_, hread⟩, ?_, hread, steps, ?_, harranges⟩
  · intro htwice
    obtain ⟨c, hc⟩ := (read_grammar _).1.mpr htwice
    cases hrefused.symm.trans hc
  · have hseven : quotientWords.length = 7 := rfl
    omega

end Expression

end FixedDecimal
