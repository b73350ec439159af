import FixedDecimal.Json.Amount
import FixedDecimal.Json.Decimal
import FixedDecimal.Json.Writer
import FixedDecimal.Proofs.Json.Reading

/-! What is written in JSON is read back: amounts, lists of them in their order, null for nothing,
and decimals, whatever else stands in their objects. -/
namespace FixedDecimal.Json

theorem spells_integer (n : ℤ) : Spells (Text.integer n) (Text.integer n) := by
  refine spells_unescaped fun c hc => ?_
  obtain rfl | hdigit := Text.mem_integer hc
  · exact ⟨by decide, by decide, by decide⟩
  · have hbound := Text.toNat_of_isDigit hdigit
    refine ⟨by omega, ?_, ?_⟩ <;> rintro rfl <;> exact absurd hdigit (by decide)

theorem toList_writeString (s : String) (rest : List Char) :
    (writeString s).toList ++ rest = '"' :: (s.toList ++ '"' :: rest) := by
  simp [writeString]

/-! ## Amounts -/

section
variable {s : Schema}

theorem toList_writeAmount (a : Amount s) (rest : List Char) :
    (writeAmount a).toList ++ rest = '"' :: (Text.integer a.magnitude ++ '"' :: rest) := by
  rw [writeAmount, toList_writeString, Amount.magnitudeText, String.toList_ofList]

theorem amount_writeAmount (a : Amount s) (rest : List Char) :
    Reader.amount s ((writeAmount a).toList ++ rest) = .ok (a, rest) := by
  have hread : amountOfText s (String.ofList (Text.integer a.magnitude)) = .ok a := by
    rw [amountOfText, Amount.readMagnitude, String.toList_ofList, Text.trim_integer,
      Text.groupedInteger_integer]
    rfl
  rw [toList_writeAmount, Reader.amount,
    Reader.bind_of_ok (Reader.head_string (spells_integer a.magnitude) rest)]
  simp only [hread]
  rfl

theorem takesAll_amounts (amounts found : List (Amount s)) :
    TakesAll ']' (fun found => do return (← Reader.amount s) :: found) found
      (amounts.map fun a => (writeAmount a).toList) (amounts.reverse ++ found) := by
  induction amounts generalizing found with
  | nil => exact .nil
  | cons a amounts ih =>
    rw [List.reverse_cons, List.append_assoc]
    exact .cons (fun rest _ => Reader.bind_of_ok (amount_writeAmount a rest)) (ih (a :: found))

theorem toList_writeAmounts (amounts : List (Amount s)) : (writeAmounts amounts).toList =
    '[' :: (List.intercalate [','] (amounts.map fun a => (writeAmount a).toList) ++ [']']) := by
  simp [writeAmounts, String.toList_intercalate, Function.comp_def]

theorem readAmounts_writeAmounts (amounts : List (Amount s)) :
    readAmounts s (writeAmounts amounts) = .ok amounts := by
  refine Reader.document_of_ok ?_
  have hstart : ∀ text ∈ (amounts.map fun a => (writeAmount a).toList).head?,
      ∃ c ∈ text.head?, Reader.isBlank c = false ∧ c ≠ ']' := by
    intro text htext
    obtain ⟨a, -, rfl⟩ := List.mem_map.mp (List.mem_of_mem_head? htext)
    have hquote := toList_writeAmount a []
    rw [List.append_nil] at hquote
    exact ⟨'"', by rw [hquote]; rfl, by decide, by decide⟩
  have hitems := Reader.items_takesAll (by decide) (takesAll_amounts amounts []) hstart []
  rw [toList_writeAmounts, Reader.list, Reader.bind_of_ok Reader.head_array]
  simp only
  rw [Reader.bind_of_ok hitems, List.append_nil, List.reverse_reverse]
  rfl

theorem readAmount_writeAmount (a : Amount s) : readAmount s (writeAmount a) = .ok a := by
  refine Reader.document_of_ok ?_
  rw [← List.append_nil (writeAmount a).toList]
  exact amount_writeAmount a []

theorem readOptionalAmount_writeOptionalAmount (a : Option (Amount s)) :
    readOptionalAmount s (writeOptionalAmount a) = .ok a := by
  refine Reader.document_of_ok ?_
  cases a with
  | none =>
    rw [writeOptionalAmount]
    change Reader.optional (Reader.amount s) ('n' :: "ull".toList) = _
    rw [Reader.optional, Reader.bind_of_ok (Reader.skipBlanks_cons (by decide)), Reader.get_bind]
    exact Reader.bind_of_ok (Reader.lexeme_null [])
  | some a =>
    have hread := amount_writeAmount a []
    have hquote := toList_writeAmount a []
    rw [List.append_nil] at hquote hread
    rw [hquote] at hread
    rw [writeOptionalAmount, hquote, Reader.optional,
      Reader.bind_of_ok (Reader.skipBlanks_cons (by decide)), Reader.get_bind]
    exact Reader.bind_of_ok hread

end

/-! ## Decimals -/

inductive Scalar where
  | null
  | bool (b : Bool)
  | integer (n : ℤ)
  | string (s : String) (h : ∀ c ∈ s.toList, IsUnescaped c)

def Scalar.text : Scalar → String
  | .null => "null"
  | .bool b => toString b
  | .integer n => String.ofList (Text.integer n)
  | .string s _ => writeString s

structure Extra where
  key : String
  name : String
  spelled : Spells key.toList name.toList
  other : name ≠ "magnitude" ∧ name ≠ "precision"
  value : Scalar

def Extra.entry (e : Extra) : String × String := (e.key, e.value.text)

def magnitudeEntry (x : Decimal) : String × String := ("magnitude", writeString x.magnitudeText)

def precisionEntry (x : Decimal) : String × String := ("precision", toString x.precision)

def entryText (e : String × String) : List Char := (writeString e.1 ++ ":" ++ e.2).toList

theorem toList_entryText (e : String × String) (rest : List Char) :
    entryText e ++ rest = '"' :: (e.1.toList ++ '"' :: ':' :: (e.2.toList ++ rest)) := by
  simp [entryText, writeString]

theorem toList_writeObject (entries : List (String × String)) : (writeObject entries).toList =
    '\x7b' :: (List.intercalate [','] (entries.map entryText) ++ ['\x7d']) := by
  have htext : (fun e : String × String => (writeString e.1).toList ++ ':' :: e.2.toList) =
      entryText := by
    funext e
    simp [entryText]
  simp [writeObject, String.toList_intercalate, Function.comp_def, htext]

theorem endsNumber_of_endsItem {rest : List Char} (h : EndsItem '\x7d' rest) : EndsNumber rest := by
  obtain h | h := h <;> obtain ⟨cs, rfl⟩ := List.head?_eq_some_iff.mp h <;>
    exact endsNumber_cons (by decide) cs

namespace Reader

variable {rest : List Char}

theorem exists_lexeme_scalar (v : Scalar) (h : EndsNumber rest) :
    ∃ l, lexeme (v.text.toList ++ rest) = .ok (l, rest) ∧ l ≠ .openArray ∧ l ≠ .openObject := by
  cases v with
  | null => exact ⟨_, lexeme_null rest, nofun, nofun⟩
  | bool b => exact ⟨_, lexeme_bool b rest, nofun, nofun⟩
  | integer n =>
    rw [Scalar.text, String.toList_ofList]
    exact ⟨_, lexeme_integer n h, nofun, nofun⟩
  | string s hs =>
    obtain ⟨pieces, hread, -⟩ := Piece.readAll_spells (spells_unescaped hs) rest
    rw [Scalar.text, toList_writeString]
    exact ⟨_, lexeme_string hread, nofun, nofun⟩

theorem skip_scalar (v : Scalar) (h : EndsNumber rest) :
    skip (v.text.toList ++ rest) = .ok ((), rest) := by
  obtain ⟨l, hlexeme, harray, hobject⟩ := exists_lexeme_scalar v h
  refine skip_of_lexeme ?_ hlexeme harray hobject
  intro hnil
  rw [hnil] at hlexeme
  cases hlexeme

theorem magnitude_integer (n : ℤ) (rest : List Char) :
    magnitude ('"' :: (Text.integer n ++ '"' :: rest)) = .ok (n, rest) := by
  have hstring (expected : String) :
      string expected ('"' :: (Text.integer n ++ '"' :: rest)) = .ok (Text.integer n, rest) := by
    rw [string, bind_of_ok (head_string (spells_integer n) rest)]
    rfl
  rw [magnitude, bind_of_ok (hstring _), Text.groupedInteger_integer]
  rfl

theorem precision_digits (p : Precision) (h : EndsNumber rest) :
    precision (Text.digits p.toNat ++ rest) = .ok (p, rest) := by
  have hlt := p.toNat_lt
  rw [precision, bind_of_ok (head_natural (by omega) h)]
  have hfits : 0 ≤ (p.toNat : ℤ) ∧ (p.toNat : ℤ) < UInt32.size :=
    ⟨Int.natCast_nonneg _, Int.ofNat_lt.mpr hlt⟩
  simp only [if_pos hfits, Int.toNat_natCast, UInt32.ofNat_toNat]
  rfl

end Reader

namespace DecimalFields

variable {found : DecimalFields} {rest : List Char}

theorem readEntry_magnitude (x : Decimal) (h : found.magnitude = none) :
    found.readEntry (entryText (magnitudeEntry x) ++ rest) =
      .ok ({ found with magnitude := some x.magnitude }, rest) := by
  have hkey : Spells "magnitude".toList "magnitude".toList :=
    spells_unescaped (by simp [IsUnescaped])
  have hvalue := Reader.magnitude_integer x.magnitude rest
  rw [toList_entryText, magnitudeEntry, readEntry, Reader.bind_of_ok (Reader.key_spelled hkey _)]
  simp only [String.ofList_toList, h, Option.isSome_none, Bool.false_eq_true, if_false]
  rw [Reader.bind_of_ok (Reader.expect_self (by decide)), toList_writeString,
    Decimal.magnitudeText, String.toList_ofList]
  exact Reader.bind_of_ok hvalue

theorem readEntry_precision (x : Decimal) (h : found.precision = none)
    (hrest : EndsItem '\x7d' rest) :
    found.readEntry (entryText (precisionEntry x) ++ rest) =
      .ok ({ found with precision := some x.precision }, rest) := by
  have hkey : Spells "precision".toList "precision".toList :=
    spells_unescaped (by simp [IsUnescaped])
  have hvalue := Reader.precision_digits x.precision (endsNumber_of_endsItem hrest)
  have hdigits : (toString x.precision).toList = Text.digits x.precision.toNat :=
    String.toList_ofList
  rw [toList_entryText, precisionEntry, readEntry, Reader.bind_of_ok (Reader.key_spelled hkey _)]
  simp only [String.ofList_toList, h, Option.isSome_none, Bool.false_eq_true, if_false]
  rw [Reader.bind_of_ok (Reader.expect_self (by decide)), hdigits]
  exact Reader.bind_of_ok hvalue

theorem readEntry_extra (e : Extra) (hrest : EndsItem '\x7d' rest) :
    found.readEntry (entryText e.entry ++ rest) = .ok (found, rest) := by
  have hskip := Reader.skip_scalar e.value (endsNumber_of_endsItem hrest)
  rw [toList_entryText, Extra.entry, readEntry,
    Reader.bind_of_ok (Reader.key_spelled e.spelled _), String.ofList_toList]
  have hunknown : (do Reader.expect ':'; Reader.skip; return found : Reader DecimalFields)
      (':' :: (e.value.text.toList ++ rest)) = .ok (found, rest) := by
    rw [Reader.bind_of_ok (Reader.expect_self (by decide))]
    exact Reader.bind_of_ok hskip
  refine (congrFun ?_ _).trans hunknown
  split
  · next h => exact absurd h e.other.1
  · next h => exact absurd h e.other.2
  · rfl

theorem takesAll_magnitude (found : DecimalFields) (x : Decimal) (h : found.magnitude = none) :
    TakesAll '\x7d' readEntry found [entryText (magnitudeEntry x)]
      { found with magnitude := some x.magnitude } :=
  .cons (fun _ _ => readEntry_magnitude x h) .nil

theorem takesAll_precision (found : DecimalFields) (x : Decimal) (h : found.precision = none) :
    TakesAll '\x7d' readEntry found [entryText (precisionEntry x)]
      { found with precision := some x.precision } :=
  .cons (fun _ hrest => readEntry_precision x h hrest) .nil

/-- Extra entries change nothing that was found. -/
theorem takesAll_extras (found : DecimalFields) (extras : List Extra) :
    TakesAll '\x7d' readEntry found ((extras.map Extra.entry).map entryText) found := by
  induction extras with
  | nil => exact .nil
  | cons e extras ih => exact .cons (fun _ hrest => readEntry_extra e hrest) ih

end DecimalFields

theorem readDecimal_writeObject {entries : List (String × String)} {x : Decimal}
    (h : TakesAll '\x7d' DecimalFields.readEntry ⟨none, none⟩ (entries.map entryText)
      ⟨some x.magnitude, some x.precision⟩) : readDecimal (writeObject entries) = .ok x := by
  refine Reader.document_of_ok ?_
  have hstart : ∀ text ∈ (entries.map entryText).head?,
      ∃ c ∈ text.head?, Reader.isBlank c = false ∧ c ≠ '\x7d' := by
    intro text htext
    obtain ⟨e, -, rfl⟩ := List.mem_map.mp (List.mem_of_mem_head? htext)
    have hquote := toList_entryText e []
    rw [List.append_nil] at hquote
    exact ⟨'"', by rw [hquote]; rfl, by decide, by decide⟩
  have hitems := Reader.items_takesAll (by decide) h hstart []
  rw [toList_writeObject, Reader.decimal, Reader.bind_of_ok Reader.head_object]
  simp only
  rw [Reader.bind_of_ok hitems]
  rfl

section
variable (x : Decimal) (before between after : List Extra)

theorem readDecimal_magnitude_first :
    readDecimal (writeObject (before.map Extra.entry ++ magnitudeEntry x ::
      (between.map Extra.entry ++ precisionEntry x :: after.map Extra.entry))) = .ok x := by
  have hmagnitude := DecimalFields.takesAll_magnitude ⟨none, none⟩ x rfl
  have hprecision := DecimalFields.takesAll_precision ⟨some x.magnitude, none⟩ x rfl
  have hrest := hprecision.append (DecimalFields.takesAll_extras _ after)
  have hboth := hmagnitude.append ((DecimalFields.takesAll_extras _ between).append hrest)
  refine readDecimal_writeObject ?_
  simpa using (DecimalFields.takesAll_extras _ before).append hboth

theorem readDecimal_precision_first :
    readDecimal (writeObject (before.map Extra.entry ++ precisionEntry x ::
      (between.map Extra.entry ++ magnitudeEntry x :: after.map Extra.entry))) = .ok x := by
  have hprecision := DecimalFields.takesAll_precision ⟨none, none⟩ x rfl
  have hmagnitude := DecimalFields.takesAll_magnitude ⟨none, some x.precision⟩ x rfl
  have hrest := hmagnitude.append (DecimalFields.takesAll_extras _ after)
  have hboth := hprecision.append ((DecimalFields.takesAll_extras _ between).append hrest)
  refine readDecimal_writeObject ?_
  simpa using (DecimalFields.takesAll_extras _ before).append hboth

end

/-- Every amount, list of amounts, optional amount and decimal is read back from its own text. A
decimal is read from its two entries in both orders, whatever other entries stand around them. -/
theorem read_written :
    (∀ (s : Schema) (a : Amount s), readAmount s (writeAmount a) = .ok a) ∧
    (∀ (s : Schema) (amounts : List (Amount s)),
      readAmounts s (writeAmounts amounts) = .ok amounts) ∧
    (∀ (s : Schema) (a : Option (Amount s)),
      readOptionalAmount s (writeOptionalAmount a) = .ok a) ∧
    (∀ x : Decimal, readDecimal (writeDecimal x) = .ok x) ∧
    ∀ (x : Decimal) (before between after : List Extra),
      readDecimal (writeObject (before.map Extra.entry ++ magnitudeEntry x ::
        (between.map Extra.entry ++ precisionEntry x :: after.map Extra.entry))) = .ok x ∧
      readDecimal (writeObject (before.map Extra.entry ++ precisionEntry x ::
        (between.map Extra.entry ++ magnitudeEntry x :: after.map Extra.entry))) = .ok x :=
  ⟨fun _ => readAmount_writeAmount, fun _ => readAmounts_writeAmounts,
    fun _ => readOptionalAmount_writeOptionalAmount,
    fun x => readDecimal_magnitude_first x [] [] [],
    fun x before between after => ⟨readDecimal_magnitude_first x before between after,
      readDecimal_precision_first x before between after⟩⟩

example : readDecimal "\x7b\"size\":-7,\"precision\":2,\"note\":\"x\",\"magnitude\":\"-150\"\x7d" =
    .ok ⟨-150, 2⟩ := by
  decide +kernel

end FixedDecimal.Json
