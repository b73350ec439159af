import FixedDecimal.CommandLine.Request
import FixedDecimal.Proofs.Text.Digits
import FixedDecimal.Proofs.Text.Trim

/-! The ways in which options are written on a command line, and the words that are values without
a mark before them. Options change what is asked for and leave the values, wherever they stand. -/
namespace FixedDecimal.CommandLine

/-! ## What the options say -/

structure Chosen where
  precision : Option Precision
  rounding : Option Rounding
  json : Bool
deriving DecidableEq

namespace Chosen

def nothing : Chosen := ⟨none, none, false⟩

inductive Gives (c : Chosen) : Setting → List Char → Chosen → Prop
  | precision {value : List Char} {p : Precision} (hnew : c.precision = none)
      (hvalue : Draft.precision? value = some p) :
      Gives c .precision value { c with precision := some p }
  | rounding {value : List Char} {mode : Rounding} (hnew : c.rounding = none)
      (hvalue : Rounding.read (String.ofList value) = .ok mode) :
      Gives c .rounding value { c with rounding := some mode }

end Chosen

def Setting.letter : Setting → Char
  | .precision => 'p'
  | .rounding => 'r'

def Setting.longName : Setting → List Char
  | .precision => "precision".toList
  | .rounding => "rounding".toList

/-- Letters after one hyphen. The last may belong to a setting, and its value follows it at once,
after an equals sign, or as the next argument. -/
inductive Letters : Chosen → List Char → Chosen → Option Setting → Prop
  | none {c : Chosen} : Letters c [] c none
  | json {c d : Chosen} {cs : List Char} {left : Option Setting} (hnew : c.json = false)
      (rest : Letters { c with json := true } cs d left) : Letters c ('j' :: cs) d left
  | joined {c d : Chosen} {setting : Setting} {value : List Char} (h : c.Gives setting value d) :
      Letters c (setting.letter :: value) d none
  | equals {c d : Chosen} {setting : Setting} {value : List Char} (h : c.Gives setting value d) :
      Letters c (setting.letter :: '=' :: value) d none
  | left {c : Chosen} (setting : Setting) : Letters c [setting.letter] c (some setting)

inductive Options : Chosen → List String → Chosen → Prop
  | none {c : Chosen} : Options c [] c
  | letters {c d e : Chosen} {x : Char} {xs : List Char} {args : List String}
      (h : Letters c (x :: xs) d none) (rest : Options d args e) :
      Options c (String.ofList ('-' :: x :: xs) :: args) e
  | lettersValue {c d e f : Chosen} {x : Char} {xs : List Char} {setting : Setting}
      {value : List Char} {args : List String} (h : Letters c (x :: xs) d (some setting))
      (hvalue : d.Gives setting value e) (rest : Options e args f) :
      Options c (String.ofList ('-' :: x :: xs) :: String.ofList value :: args) f
  | json {c d : Chosen} {args : List String} (hnew : c.json = false)
      (rest : Options { c with json := true } args d) : Options c ("--json" :: args) d
  | long {c d e : Chosen} {setting : Setting} {value : List Char} {args : List String}
      (h : c.Gives setting value d) (rest : Options d args e) :
      Options c (String.ofList ('-' :: '-' :: setting.longName ++ '=' :: value) :: args) e
  | longValue {c d e : Chosen} {setting : Setting} {value : List Char} {args : List String}
      (h : c.Gives setting value d) (rest : Options d args e) :
      Options c (String.ofList ('-' :: '-' :: setting.longName) :: String.ofList value :: args) e

/-! ## Numbers with a hyphen -/

theorem isNumberTail_digit {c : Char} (h : c.isDigit = true) (point exponent : Bool)
    (cs : List Char) : isNumberTail point exponent (c :: cs) = isNumberTail point exponent cs := by
  cases cs with
  | nil => simp [isNumberTail, h]
  | cons d rest => simp [isNumberTail, h]

theorem isNumberTail_digits {cs : List Char} (h : Text.allDigits cs = true) (point exponent : Bool)
    (rest : List Char) :
    isNumberTail point exponent (cs ++ rest) = isNumberTail point exponent rest := by
  induction cs with
  | nil => rfl
  | cons c cs ih =>
    obtain ⟨hc, hcs⟩ := Text.allDigits_cons.mp h
    rw [List.cons_append, isNumberTail_digit hc, ih hcs]

inductive PlainNumber : List Char → Prop
  | whole {cs : List Char} (hne : cs ≠ []) (h : Text.allDigits cs = true) : PlainNumber cs
  | fractional {whole fraction : List Char} (hwhole : whole ≠ [])
      (hwholeDigits : Text.allDigits whole = true) (hfraction : fraction ≠ [])
      (hfractionDigits : Text.allDigits fraction = true) : PlainNumber (whole ++ '.' :: fraction)

theorem PlainNumber.isNegativeNumber {cs : List Char} (h : PlainNumber cs) :
    isNegativeNumber ('-' :: cs) = true := by
  have hstart : ∀ {c rest}, c.isDigit = true → isNumberTail true true rest = true →
      CommandLine.isNegativeNumber ('-' :: c :: rest) = true := by
    intro c rest hc hrest
    simp [CommandLine.isNegativeNumber, hc, hrest]
  cases h with
  | whole hne h =>
    obtain ⟨c, rest, rfl⟩ := List.exists_cons_of_ne_nil hne
    obtain ⟨hc, hrest⟩ := Text.allDigits_cons.mp h
    have htail := isNumberTail_digits hrest true true []
    rw [List.append_nil] at htail
    exact hstart hc htail
  | @fractional whole fraction hwhole hwholeDigits hfraction hfractionDigits =>
    obtain ⟨c, rest, rfl⟩ := List.exists_cons_of_ne_nil hwhole
    obtain ⟨d, more, rfl⟩ := List.exists_cons_of_ne_nil hfraction
    obtain ⟨hc, hrest⟩ := Text.allDigits_cons.mp hwholeDigits
    have hpoint : isNumberTail true true ('.' :: d :: more) = isNumberTail false true (d :: more) :=
      rfl
    have htail := isNumberTail_digits hfractionDigits false true []
    rw [List.append_nil] at htail
    rw [List.cons_append]
    exact hstart hc (by rw [isNumberTail_digits hrest, hpoint, htail]; rfl)

def PlainWord (word : String) : Prop :=
  ∀ rest, word.toList = '-' :: rest → rest = [] ∨ PlainNumber rest

/-! ## Values of settings -/

theorem head_of_usualName {s : String} {mode : Rounding}
    (h : Rounding.ofUsualName? s = some mode) : ∃ c ∈ s.toList.head?, c.isAlpha = true := by
  unfold Rounding.ofUsualName? at h
  split at h
  case h_8 => cases h
  all_goals exact ⟨_, rfl, by decide⟩

theorem natural?_eq_some {cs : List Char} {n : Nat} (h : Text.natural? cs = some n) :
    cs ≠ [] ∧ Text.allDigits cs = true := by
  unfold Text.natural? at h
  split at h
  · cases h
  · next hne =>
    split at h
    · next hd => exact ⟨hne, hd⟩
    · cases h

theorem head_of_precision {value : List Char} {p : Precision}
    (h : Draft.precision? value = some p) : ∃ x xs, value = x :: xs ∧ x ≠ '=' ∧
      (x = '-' → isNegativeNumber value = true) := by
  unfold Draft.precision? at h
  obtain ⟨n, hn, -⟩ := Option.bind_eq_some_iff.mp h
  unfold Text.signed? at hn
  split at hn
  · next rest =>
    cases hk : Text.natural? rest with
    | none => simp [hk] at hn
    | some k =>
      obtain ⟨hne, hdigits⟩ := natural?_eq_some hk
      exact ⟨'-', rest, rfl, by decide, fun _ => (PlainNumber.whole hne hdigits).isNegativeNumber⟩
  · next rest => exact ⟨'+', rest, rfl, by decide, fun h => absurd h (by decide)⟩
  · obtain ⟨k, hk, -⟩ := Option.map_eq_some_iff.mp hn
    obtain ⟨hne, hdigits⟩ := natural?_eq_some hk
    obtain ⟨x, xs, rfl⟩ := List.exists_cons_of_ne_nil hne
    have hx := (Text.allDigits_cons.mp hdigits).1
    refine ⟨x, xs, rfl, ?_, ?_⟩ <;> rintro rfl <;> exact absurd hx (by decide)

theorem head_of_rounding {value : List Char} {mode : Rounding}
    (h : Rounding.read (String.ofList value) = .ok mode) :
    ∃ x xs, value = x :: xs ∧ x ≠ '=' ∧ x ≠ '-' := by
  have husual :
      Rounding.ofUsualName? (Rounding.normalisedName (String.ofList value)) = some mode := by
    unfold Rounding.read at h
    split at h
    · next hmode => rw [hmode, Except.ok.inj h]
    · cases h
  obtain ⟨c, hc, halpha⟩ := head_of_usualName husual
  rw [Rounding.normalisedName, String.toList_ofList, String.toList_ofList, List.head?_map] at hc
  obtain ⟨y, hy, hyc⟩ := Option.map_eq_some_iff.mp hc
  cases value with
  | nil => cases hy
  | cons x xs =>
    refine ⟨x, xs, rfl, ?_⟩
    by_cases hblank : Text.isBlank x = true
    · constructor <;> rintro rfl <;> exact absurd hblank (by decide)
    · -- the first letter of a name is a letter still when hyphens become underscores
      obtain ⟨rest, hrest⟩ := Text.trim_cons (Bool.not_eq_true _ ▸ hblank) xs
      rw [hrest] at hy
      obtain rfl : x = y := Option.some.inj hy
      constructor <;> rintro rfl <;> rw [← hyc] at halpha <;> exact absurd halpha (by decide)

/-- How the value of a setting may begin: not with an equals sign, and with a hyphen only where
it is a negative number. -/
theorem Chosen.Gives.head {c d : Chosen} {setting : Setting} {value : List Char}
    (h : c.Gives setting value d) : ∃ x xs, value = x :: xs ∧ x ≠ '=' ∧
      (x = '-' → isNegativeNumber value = true) := by
  cases h with
  | precision _ hvalue => exact head_of_precision hvalue
  | rounding _ hvalue =>
    obtain ⟨x, xs, hcons, hequals, hhyphen⟩ := head_of_rounding hvalue
    exact ⟨x, xs, hcons, hequals, fun h => absurd h hhyphen⟩

/-! ## Drafts -/

namespace Draft

def withChosen (r : Draft) (c : Chosen) : Draft :=
  { r with precision := c.precision, rounding := c.rounding, json := c.json }

variable {r : Draft} {c d : Chosen}

theorem set_withChosen {setting : Setting} {value : List Char} (h : c.Gives setting value d) :
    (r.withChosen c).set setting value = .ok (r.withChosen d) := by
  cases h with
  | precision hnew hvalue => simp [set, withChosen, hnew, hvalue]
  | rounding hnew hvalue => simp [set, withChosen, hnew, hvalue, Except.toOption]

theorem setJson_withChosen (h : c.json = false) :
    (r.withChosen c).setJson = .ok (r.withChosen { c with json := true }) := by
  simp [setJson, withChosen, h]

theorem takeLetters_of_letters {cs : List Char} {left : Option Setting}
    (h : Letters c cs d left) : (r.withChosen c).takeLetters cs = .ok (r.withChosen d, left) := by
  induction h with
  | none => rfl
  | json hnew _ ih =>
    rw [takeLetters, if_pos rfl, setJson_withChosen hnew]
    exact ih
  | @joined c d setting value h =>
    -- an equals sign first would be taken for a separator, but no value begins with one
    obtain ⟨x, xs, rfl, hequals, -⟩ := h.head
    cases setting <;> simp [takeLetters, Setting.letter, set_withChosen h, hequals]
  | @equals c d setting value h =>
    cases setting <;> simp [takeLetters, Setting.letter, set_withChosen h]
  | left setting => cases setting <;> rfl

/-! ## Arguments one by one -/

theorem takesValue_of_eval {r : Draft} (h : r.task = .eval) : r.takesValue = true := by
  rw [takesValue, h]

theorem isOption_of_not_isDigit (r : Draft) {x : Char} (h : x.isDigit = false) (xs : List Char) :
    r.isOption ('-' :: x :: xs) = true := by
  simp [isOption, isNegativeNumber, h]

theorem isOption_of_gives {r : Draft} (htask : r.task = .eval) {setting : Setting}
    {value : List Char} (h : c.Gives setting value d) : r.isOption value = false := by
  obtain ⟨x, xs, rfl, -, hnegative⟩ := h.head
  unfold isOption
  split
  · next rest hcons =>
    rw [takesValue_of_eval htask, hnegative (List.cons.inj hcons).1]
    rfl
  · rfl

section
variable {r' : Draft} {x : Char} {xs : List Char} {rest : List String}

theorem takeAll_option (hmark : String.ofList ('-' :: x :: xs) ≠ "--") (hx : x.isDigit = false)
    (htake : r.takeOption ('-' :: x :: xs) = .ok (r', none)) :
    r.takeAll (String.ofList ('-' :: x :: xs) :: rest) = r'.takeAll rest := by
  rw [takeAll, if_neg hmark, String.toList_ofList, if_pos (isOption_of_not_isDigit r hx xs), htake]

theorem takeAll_setting {setting : Setting} {value : List Char} (htask : r'.task = .eval)
    (hmark : String.ofList ('-' :: x :: xs) ≠ "--") (hx : x.isDigit = false)
    (htake : r.takeOption ('-' :: x :: xs) = .ok (r'.withChosen c, some setting))
    (hvalue : c.Gives setting value d) :
    r.takeAll (String.ofList ('-' :: x :: xs) :: String.ofList value :: rest) =
      (r'.withChosen d).takeAll rest := by
  have hoption : (r'.withChosen c).isOption value = false := isOption_of_gives htask hvalue
  rw [takeAll, if_neg hmark, String.toList_ofList, if_pos (isOption_of_not_isDigit r hx xs), htake]
  simp only [String.toList_ofList, hoption, set_withChosen hvalue, Bool.false_eq_true, if_false]
  rfl

theorem takeAll_value {arg : String} (hmark : arg ≠ "--") (hoption : r.isOption arg.toList = false)
    (hadd : r.addValue arg = .ok r') : r.takeAll (arg :: rest) = r'.takeAll rest := by
  rw [takeAll, if_neg hmark, if_neg (by rw [hoption]; exact Bool.false_ne_true), hadd]
  rfl

end

theorem head_of_letters {x : Char} {xs : List Char} {left : Option Setting}
    (h : Letters c (x :: xs) d left) : x.isDigit = false ∧ x ≠ '-' := by
  cases h with
  | json _ _ => decide
  | @joined _ _ setting _ _ => cases setting <;> decide
  | @equals _ _ setting _ _ => cases setting <;> decide
  | left setting => cases setting <;> decide

theorem takeOption_letters {x : Char} {xs : List Char} {left : Option Setting}
    (h : Letters c (x :: xs) d left) :
    (r.withChosen c).takeOption ('-' :: x :: xs) = .ok (r.withChosen d, left) := by
  rw [← takeLetters_of_letters h]
  unfold takeOption
  split
  · next hcons => exact absurd (List.cons.inj (List.cons.inj hcons).2).1 (head_of_letters h).2
  · next hcons => rw [(List.cons.inj hcons).2]
  · next h => exact absurd rfl (h _)

theorem ne_mark_of_letters {x : Char} {xs : List Char} {left : Option Setting}
    (h : Letters c (x :: xs) d left) : String.ofList ('-' :: x :: xs) ≠ "--" := by
  intro hmark
  have hchars := congrArg String.toList hmark
  rw [String.toList_ofList] at hchars
  exact (head_of_letters h).2 (List.cons.inj (List.cons.inj hchars).2).1

theorem takeOption_json (h : c.json = false) : (r.withChosen c).takeOption "--json".toList =
    .ok (r.withChosen { c with json := true }, none) := by
  change (do return (← (r.withChosen c).setJson, none)) = _
  rw [setJson_withChosen h]
  rfl

theorem takeOption_long (setting : Setting) :
    r.takeOption ('-' :: '-' :: setting.longName) = .ok (r, some setting) := by
  cases setting <;> rfl

theorem takeOption_longValue {setting : Setting} {value : List Char} (h : c.Gives setting value d) :
    (r.withChosen c).takeOption ('-' :: '-' :: (setting.longName ++ '=' :: value)) =
      .ok (r.withChosen d, none) := by
  have htake : (r.withChosen c).takeOption ('-' :: '-' :: (setting.longName ++ '=' :: value)) =
      do return (← (r.withChosen c).set setting value, none) := by
    cases setting <;> rfl
  rw [htake, set_withChosen h]
  rfl

theorem ne_mark_of_long (setting : Setting) (rest : List Char) :
    String.ofList ('-' :: '-' :: (setting.longName ++ rest)) ≠ "--" := by
  intro hmark
  have hchars := congrArg String.toList hmark
  rw [String.toList_ofList] at hchars
  cases setting <;> cases hchars

/-- Options leave the values as they are and add what they say to what was said before. -/
theorem takeAll_options (htask : r.task = .eval) {args : List String} (h : Options c args d)
    (rest : List String) :
    (r.withChosen c).takeAll (args ++ rest) = (r.withChosen d).takeAll rest := by
  induction h with
  | none => rfl
  | letters h _ ih =>
    rw [← ih]
    exact takeAll_option (ne_mark_of_letters h) (head_of_letters h).1 (takeOption_letters h)
  | lettersValue h hvalue _ ih =>
    rw [← ih]
    exact takeAll_setting htask (ne_mark_of_letters h) (head_of_letters h).1
      (takeOption_letters h) hvalue
  | json hnew _ ih =>
    rw [← ih]
    exact takeAll_option (by decide) (by decide) (takeOption_json hnew)
  | @long _ _ _ setting _ _ h _ ih =>
    rw [← ih]
    exact takeAll_option (ne_mark_of_long setting _) (by decide) (takeOption_longValue h)
  | @longValue _ _ _ setting _ _ h _ ih =>
    have hmark := ne_mark_of_long setting []
    rw [List.append_nil] at hmark
    rw [← ih]
    exact takeAll_setting htask hmark (by decide) (takeOption_long setting) h

def withWords (r : Draft) (words : List String) : Draft := { r with values := r.values ++ words }

@[simp] theorem withWords_nil (r : Draft) : r.withWords [] = r := by simp [withWords]

theorem withWords_cons (r : Draft) (word : String) (words : List String) :
    r.withWords (word :: words) = (r.withWords [word]).withWords words := by simp [withWords]

theorem addValue_of_eval {r : Draft} (htask : r.task = .eval) (word : String) :
    r.addValue word = .ok (r.withWords [word]) := if_pos (takesValue_of_eval htask)

theorem foldlM_addValue (words : List String) {r : Draft} (htask : r.task = .eval) :
    words.foldlM addValue r = .ok (r.withWords words) := by
  induction words generalizing r with
  | nil => rw [withWords_nil]; rfl
  | cons word words ih =>
    rw [List.foldlM_cons, addValue_of_eval htask, withWords_cons r word words]
    exact ih htask

theorem isOption_of_plain {r : Draft} (htask : r.task = .eval) {word : String}
    (h : PlainWord word) : r.isOption word.toList = false := by
  unfold isOption
  split
  · next x xs hcons =>
    obtain hnil | hnumber := h _ hcons
    · cases hnil
    · rw [takesValue_of_eval htask, hcons, hnumber.isNegativeNumber]
      rfl
  · rfl

theorem ne_mark_of_plain {word : String} (h : PlainWord word) : word ≠ "--" := by
  rintro rfl
  obtain hnil | hnumber := h ['-'] rfl
  · cases hnil
  · exact absurd hnumber.isNegativeNumber (by decide)

/-- Words without a mark before them are values, in their order. -/
theorem takeAll_words {words : List String} (h : ∀ word ∈ words, PlainWord word)
    (rest : List String) {r : Draft} (htask : r.task = .eval) :
    r.takeAll (words ++ rest) = (r.withWords words).takeAll rest := by
  induction words generalizing r with
  | nil => rw [withWords_nil]; rfl
  | cons word words ih =>
    obtain ⟨hword, hwords⟩ := List.forall_mem_cons.mp h
    rw [List.cons_append, takeAll_value (ne_mark_of_plain hword) (isOption_of_plain htask hword)
      (addValue_of_eval htask word), withWords_cons r word words]
    exact ih hwords htask

end Draft

/-! ## Whole command lines -/

def Chosen.request (c : Chosen) (words : List String) : Request :=
  ⟨.eval words, c.precision, c.rounding, c.json⟩

section
variable {c d : Chosen} {before after words : List String}

theorem request_eval (args : List String) :
    request false ("eval" :: args) = ((Draft.start .eval).withChosen .nothing).takeAll args := rfl

theorem finish_withChosen (c : Chosen) (hne : words ≠ []) :
    (((Draft.start .eval).withWords words).withChosen c).finish = .ok (c.request words) := by
  obtain ⟨word, rest, rfl⟩ := List.exists_cons_of_ne_nil hne
  rfl

theorem request_marked (hbefore : Options .nothing before c) (hne : words ≠ []) :
    request false ("eval" :: before ++ "--" :: words) = .ok (c.request words) := by
  rw [List.cons_append, request_eval, Draft.takeAll_options rfl hbefore, Draft.takeAll,
    if_pos rfl, Draft.foldlM_addValue _ rfl]
  exact finish_withChosen c hne

theorem request_plain (hbefore : Options .nothing before c) (hafter : Options c after d)
    (hne : words ≠ []) (hplain : ∀ word ∈ words, PlainWord word) :
    request false ("eval" :: before ++ words ++ after) = .ok (d.request words) := by
  have htake := Draft.takeAll_options (r := (Draft.start .eval).withWords words) rfl hafter []
  rw [List.append_nil] at htake
  rw [List.append_assoc, List.cons_append, request_eval, Draft.takeAll_options rfl hbefore,
    Draft.takeAll_words hplain _ rfl]
  exact htake.trans (finish_withChosen d hne)

end

end FixedDecimal.CommandLine
