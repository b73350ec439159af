import FixedDecimal.Proofs.Calculator.Operands
import FixedDecimal.Proofs.Decimal.Numeral
import FixedDecimal.Proofs.Expression.Grammar

/-! Calculations written as words. Reading the words gives the calculation back when every value
keeps its precision in writing, and one with the same results when values keep their number
alone. -/
namespace FixedDecimal

namespace Formula

def wordsWith (write : Decimal → String) (f : Formula) : List String :=
  (f.seed.map write).getD "_" ::
    f.steps.flatMap fun step => [step.operator.symbol, write step.operand]

theorem words_ne_nil (f : Formula) : f.words ≠ [] := List.cons_ne_nil _ _

end Formula

namespace Calculator

def wordsWith (write : Decimal → String) (c : Calculator) : List String :=
  match c.denominator with
  | none => c.numerator.wordsWith write
  | some d => c.numerator.wordsWith write ++ "/" :: d.wordsWith write

def text (c : Calculator) : String :=
  match c.denominator with
  | none => c.numerator.text
  | some d => c.numerator.text ++ " / " ++ d.text

end Calculator

/-! ## Reading the words -/

theorem Operator.ofWord?_symbol (operator : Operator) :
    ofWord? operator.symbol = some operator := by
  cases operator <;> decide

namespace Expression

variable {write : Decimal → String} {g : Decimal → Decimal}

theorem spells_steps (hread : ∀ x, readValue (write x) = .ok (g x)) (steps : List Step) :
    Spells (steps.flatMap fun step => [step.operator.symbol, write step.operand])
      (steps.map fun step => ⟨step.operator, g step.operand⟩) := by
  induction steps with
  | nil => exact .nil
  | cons step rest ih =>
    exact .cons (Operator.ofWord?_symbol step.operator) (hread step.operand) ih

theorem read_wordsWith (hread : ∀ x, readValue (write x) = .ok (g x)) {c : Calculator}
    (hw : c.WellFormed) (hs : c.numerator.seed.isSome) :
    read (c.wordsWith write) = .ok (c.mapOperands g) := by
  obtain ⟨⟨seed, steps⟩, d⟩ := c
  obtain ⟨x, rfl⟩ := Option.isSome_iff_exists.mp hs
  have hmapped := hw.mapOperands g
  have hnumerator := Formula.hasDivision_eq_false.mp hmapped.numerator_undivided
  cases d with
  | none =>
    exact read_eq_ok.mpr ⟨_, _, _, _, rfl, hread x, spells_steps hread steps, .whole hnumerator⟩
  | some d =>
    obtain ⟨seed, after⟩ := d
    obtain ⟨y, rfl⟩ := Option.isSome_iff_exists.mp (hw.seeded _ rfl).2
    have hdenominator :=
      Formula.hasDivision_eq_false.mp (hmapped.denominator_undivided _ rfl)
    -- the division sign and the value behind it are one more step
    have hspells := spells_steps hread (steps ++ ⟨.div, y⟩ :: after)
    rw [List.flatMap_append, List.map_append] at hspells
    exact read_eq_ok.mpr
      ⟨_, _, _, _, rfl, hread x, hspells, .quotient hnumerator hdenominator⟩

end Expression

/-! ## Values with their precision -/

theorem Text.word?_digits (n : UInt32) : word? (digits n.toNat) = some n := by
  have hsize : n.toNat < UInt32.size := n.toNat_lt
  unfold word?
  split
  · next rest h =>
    have hplus : ('+').isDigit = true :=
      isDigit_of_mem_digits (n := n.toNat) (h ▸ List.mem_cons_self)
    exact absurd hplus (by decide)
  · simp [natural?_digits, hsize]

namespace Expression

theorem splitMark?_of_mark {front : List Char} (h : '@' ∉ front) (after : List Char) :
    splitMark? (front ++ '@' :: after) = (front, some after) := by
  have hfront : ∀ c ∈ front, (c != '@') = true := fun c hc =>
    bne_iff_ne.mpr (ne_of_mem_of_not_mem hc h)
  simp [splitMark?, List.takeWhile_append_of_pos hfront, List.dropWhile_append_of_pos hfront]

theorem splitMark?_of_no_mark {cs : List Char} (h : '@' ∉ cs) : splitMark? cs = (cs, none) := by
  have hnone : cs.dropWhile (· != '@') = [] := List.dropWhile_eq_nil_iff.mpr fun c hc =>
    bne_iff_ne.mpr (ne_of_mem_of_not_mem hc h)
  rw [splitMark?, hnone]

end Expression

namespace Decimal

/-- A text holds digits, a sign and a point. -/
theorem not_mem_text (x : Decimal) {c : Char} (hdash : c ≠ '-') (hpoint : c ≠ '.')
    (hdigit : c.isDigit = false) : c ∉ x.text.toList := by
  rw [← text_numeral, Numeral.text, String.toList_ofList]
  intro h
  rcases x.numeral.mem_chars h with rfl | rfl | hd
  · exact hdash rfl
  · exact hpoint rfl
  · exact Bool.false_ne_true (hdigit.symm.trans hd)

theorem mark_not_mem_text (x : Decimal) : '@' ∉ x.text.toList :=
  x.not_mem_text (by decide) (by decide) (by decide)

theorem space_not_mem_text (x : Decimal) : ' ' ∉ x.text.toList :=
  x.not_mem_text (by decide) (by decide) (by decide)

def markedText (x : Decimal) : String := s!"{x.text}@{x.precision}"

theorem toList_markedText (x : Decimal) :
    x.markedText.toList = x.text.toList ++ '@' :: Text.digits x.precision.toNat := by
  have hprecision : (toString x.precision).toList = Text.digits x.precision.toNat :=
    String.toList_ofList
  have hmarked : x.markedText = x.text ++ "@" ++ toString x.precision := rfl
  simp [hmarked, hprecision]

theorem readValue_text (x : Decimal) : Expression.readValue x.text = .ok x.reduced := by
  rw [Expression.readValue, Expression.splitMark?_of_no_mark x.mark_not_mem_text]
  exact x.read_text

theorem readValue_markedText (x : Decimal) : Expression.readValue x.markedText = .ok x := by
  have hle : ¬x.precision < x.reduced.precision := UInt32.not_lt.mpr x.precision_reduced_le
  rw [Expression.readValue, toList_markedText,
    Expression.splitMark?_of_mark x.mark_not_mem_text]
  simp only [String.ofList_toList, Text.word?_digits, read_text, ok_bind, if_neg hle,
    rescale_reduced]
  rfl

end Decimal

namespace Calculator

/-- Every calculation that can be built can be written so that it is read back as it is. -/
theorem Reachable.read_markedWords {c : Calculator} (hc : Reachable c)
    (hs : c.numerator.seed.isSome) :
    Expression.read (c.wordsWith Decimal.markedText) = .ok c := by
  have hread : ∀ x : Decimal, Expression.readValue x.markedText = .ok (id x) :=
    Decimal.readValue_markedText
  rw [Expression.read_wordsWith hread hc.wellFormed hs, mapOperands_id]

theorem nestedChains_read_markedWords :
    Reachable nestedChains ∧
    nestedChains.wordsWith Decimal.markedText =
      ["10.5@1", "*", "-0.25@2", "/", "4@0", "-", "1@0", "*", "0.35@2"] ∧
    Expression.read ["10.5@1", "*", "-0.25@2", "/", "4@0", "-", "1@0", "*", "0.35@2"] =
      .ok nestedChains := by
  have hwords : nestedChains.wordsWith Decimal.markedText =
      ["10.5@1", "*", "-0.25@2", "/", "4@0", "-", "1@0", "*", "0.35@2"] := by decide
  exact ⟨nestedChains_reachable, hwords, hwords ▸ nestedChains_reachable.read_markedWords rfl⟩

end Calculator

/-! ## Values without their precision -/

def Text.pieces (s : String) : List String := (s.split ' ').toList.map String.Slice.copy

theorem Text.pieces_intercalate {words : List String} (hne : words ≠ [])
    (h : ∀ word ∈ words, ' ' ∉ word.toList) : pieces (" ".intercalate words) = words := by
  have hsplit := String.toList_split_intercalate h
  rwa [if_neg hne] at hsplit

theorem Formula.space_not_mem {f : Formula} {word : String} (h : word ∈ f.words) :
    ' ' ∉ word.toList := by
  rcases List.mem_cons.mp h with rfl | h
  · cases f.seed with
    | none => decide
    | some x => exact x.space_not_mem_text
  · obtain ⟨step, -, hword⟩ := List.mem_flatMap.mp h
    rcases List.mem_pair.mp hword with rfl | rfl
    · cases step.operator <;> decide
    · exact step.operand.space_not_mem_text

namespace Calculator

theorem text_eq (c : Calculator) : c.text = " ".intercalate (c.wordsWith Decimal.text) := by
  obtain ⟨f, d⟩ := c
  cases d with
  | none => rfl
  | some d =>
    have hsign : " / " = " " ++ ("/" ++ " ") := rfl
    change f.text ++ " / " ++ d.text = " ".intercalate (f.words ++ "/" :: d.words)
    rw [String.intercalate_append_of_ne_nil f.words_ne_nil (List.cons_ne_nil _ _),
      String.intercalate_cons_of_ne_nil d.words_ne_nil, ← Formula.text, ← Formula.text,
      hsign]
    simp only [String.append_assoc]

theorem space_not_mem {c : Calculator} {word : String} (h : word ∈ c.wordsWith Decimal.text) :
    ' ' ∉ word.toList := by
  obtain ⟨f, d⟩ := c
  cases d with
  | none => exact Formula.space_not_mem h
  | some d =>
    rcases List.mem_append.mp h with h | h
    · exact Formula.space_not_mem h
    · rcases List.mem_cons.mp h with rfl | h
      · decide
      · exact Formula.space_not_mem h

theorem wordsWith_ne_nil {write : Decimal → String} (c : Calculator) : c.wordsWith write ≠ [] := by
  obtain ⟨f, d⟩ := c
  cases d <;> simp [wordsWith, Formula.wordsWith]

theorem pieces_text (c : Calculator) : Text.pieces c.text = c.wordsWith Decimal.text := by
  rw [text_eq, Text.pieces_intercalate c.wordsWith_ne_nil fun _ => space_not_mem]

/-- The text of a calculation tells its results, though it does not tell with how many digits the
values were given. -/
theorem Reachable.text_means_calculation {c : Calculator} (hc : Reachable c)
    (hs : c.numerator.seed.isSome) :
    ∃ d, Expression.read (Text.pieces c.text) = .ok d ∧
      ∀ precision mode, c.SumsFit precision →
        d.calculateAt precision mode = c.calculateAt precision mode := by
  have hw := hc.wellFormed
  refine ⟨c.mapOperands Decimal.reduced, ?_, ?_⟩
  · rw [pieces_text, Expression.read_wordsWith Decimal.readValue_text hw hs]
  · intro precision mode hfit
    exact calculateAt_mapOperands hw Decimal.value_reduced Decimal.precision_reduced_le hfit mode

/-- Some values have zeros to spare: `10.50 * -0.25` over `4.00 - 1.0`. -/
def spareZeros : Calculator :=
  ⟨⟨some ⟨1050, 2⟩, [⟨.mul, ⟨-25, 2⟩⟩]⟩, some ⟨some ⟨400, 2⟩, [⟨.sub, ⟨10, 1⟩⟩]⟩⟩

theorem spareZeros_text_means_calculation :
    Reachable spareZeros ∧ spareZeros.SumsFit 2 ∧
    Text.pieces spareZeros.text = ["10.5", "*", "-0.25", "/", "4", "-", "1"] ∧
    ∃ d, Expression.read ["10.5", "*", "-0.25", "/", "4", "-", "1"] = .ok d ∧
      d.numerator.seed = some ⟨105, 1⟩ ∧
      spareZeros.calculateAt 2 .halfEven = .ok ⟨-88, 2⟩ ∧
      d.calculateAt 2 .halfEven = spareZeros.calculateAt 2 .halfEven := by
  have hreachable : Reachable spareZeros :=
    reachable_iff_wellFormed.mpr (wellFormed_of_formulas rfl rfl rfl rfl)
  have hfit : spareZeros.SumsFit 2 := by
    refine ⟨by decide, ?_⟩
    intro d hd
    cases hd
    decide
  have hpieces : Text.pieces spareZeros.text = ["10.5", "*", "-0.25", "/", "4", "-", "1"] := by
    rw [pieces_text]
    decide
  have hread : Expression.read ["10.5", "*", "-0.25", "/", "4", "-", "1"] =
      .ok (spareZeros.mapOperands Decimal.reduced) := by decide
  obtain ⟨d, hd, hsame⟩ := hreachable.text_means_calculation rfl
  rw [hpieces] at hd
  obtain rfl := Except.ok.inj (hread.symm.trans hd)
  exact ⟨hreachable, hfit, hpieces, _, hd, by decide, by decide, hsame 2 .halfEven hfit⟩

end Calculator

end FixedDecimal
