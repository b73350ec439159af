import FixedDecimal.Proofs.Json.Scalars
import FixedDecimal.Proofs.Text.Integer

/-! What readers take off the front of a text and what they leave of it: scalars, keys, and items
between brackets. -/
namespace FixedDecimal.Json

/-! ## Steps -/

namespace Reader

variable {α β : Type} {c d : Char} {cs rest : List Char}

/-- After a reader that has taken something the next one goes on with the rest. -/
theorem bind_of_ok {read : Reader α} {f : α → Reader β} {a : α} (h : read cs = .ok (a, rest)) :
    (read >>= f) cs = f a rest := by
  change (read cs >>= fun p => f p.1 p.2) = f a rest
  rw [h]
  rfl

theorem get_bind (f : List Char → Reader β) : (get >>= f) cs = f cs cs := rfl

theorem modify_bind (g : List Char → List Char) (f : Unit → Reader β) :
    (modify g >>= f) cs = f () (g cs) := rfl

theorem document_of_ok {read : Reader α} {text : String} {a : α}
    (h : read text.toList = .ok (a, [])) : document read text = .ok a := by
  rw [document, h]
  rfl

theorem ofOption_of_some {read : List Char → Option (α × List Char)} {a : α}
    (h : read cs = some (a, rest)) : ofOption read cs = .ok (a, rest) := by
  rw [ofOption, h]

theorem skipBlanks_cons (h : isBlank c = false) : skipBlanks (c :: cs) = .ok ((), c :: cs) := by
  change Except.ok ((), (c :: cs).dropWhile isBlank) = _
  rw [List.dropWhile_cons_of_neg (by simp [h])]

theorem token_cons (h : isBlank c = false) : token (c :: cs) = .ok (c, cs) := by
  rw [token, bind_of_ok (skipBlanks_cons h)]
  rfl

theorem takes_self (h : isBlank c = false) : takes c (c :: cs) = .ok (true, cs) := by
  rw [takes, bind_of_ok (skipBlanks_cons h), get_bind]
  simp only [if_true]
  rfl

theorem takes_other (h : isBlank d = false) (hne : d ≠ c) :
    takes c (d :: cs) = .ok (false, d :: cs) := by
  rw [takes, bind_of_ok (skipBlanks_cons h), get_bind]
  simp only [if_neg hne]
  rfl

theorem expect_self (h : isBlank c = false) : expect c (c :: cs) = .ok ((), cs) := by
  rw [expect, bind_of_ok (takes_self h)]
  rfl

end Reader

/-! ## Scalars -/

theorem isBlank_of_isDigit {c : Char} (h : c.isDigit = true) : Reader.isBlank c = false := by
  simp only [Reader.isBlank, Bool.or_eq_false_iff, beq_eq_false_iff_ne]
  refine ⟨⟨⟨?_, ?_⟩, ?_⟩, ?_⟩ <;> rintro rfl <;> exact absurd h (by decide)

namespace Reader

variable {cs rest : List Char}

theorem lexeme_null (rest : List Char) : lexeme ("null".toList ++ rest) = .ok (.null, rest) := by
  change lexeme ('n' :: ("ull".toList ++ rest)) = _
  rw [lexeme, bind_of_ok (token_cons (by decide))]
  rfl

theorem lexeme_bool (b : Bool) (rest : List Char) :
    lexeme ((toString b).toList ++ rest) = .ok (.bool b, rest) := by
  cases b with
  | false =>
    change lexeme ('f' :: ("alse".toList ++ rest)) = _
    rw [lexeme, bind_of_ok (token_cons (by decide))]
    rfl
  | true =>
    change lexeme ('t' :: ("rue".toList ++ rest)) = _
    rw [lexeme, bind_of_ok (token_cons (by decide))]
    rfl

theorem lexeme_string {pieces : List Piece} (h : Piece.readAll cs = some (pieces, rest)) :
    lexeme ('"' :: cs) = .ok (.string pieces, rest) := by
  rw [lexeme, bind_of_ok (token_cons (by decide))]
  exact bind_of_ok (ofOption_of_some h)

theorem lexeme_integer (n : ℤ) (h : EndsNumber rest) :
    lexeme (Text.integer n ++ rest) = .ok (.number (.ofInt n), rest) := by
  obtain ⟨c, cs, hcons, hc⟩ := Text.exists_integer_cons n
  have hread := NumberText.read?_integer n h
  rw [hcons, List.cons_append] at hread ⊢
  have hblank : isBlank c = false := by
    obtain rfl | hdigit := hc
    · rfl
    · exact isBlank_of_isDigit hdigit
  rw [lexeme, bind_of_ok (token_cons hblank)]
  split
  case h_7 =>
    rw [if_pos hc, modify_bind]
    exact bind_of_ok (ofOption_of_some hread)
  all_goals exact absurd hc (by decide)

theorem skip_of_lexeme {l : Lexeme} (hne : cs ≠ []) (h : lexeme cs = .ok (l, rest))
    (harray : l ≠ .openArray) (hobject : l ≠ .openObject) : skip cs = .ok ((), rest) := by
  obtain ⟨c, more, rfl⟩ := List.exists_cons_of_ne_nil hne
  rw [skip, get_bind, List.length_cons, skipValue,
    bind_of_ok h]
  split
  · exact absurd rfl harray
  · exact absurd rfl hobject
  · rfl

theorem joined_of_some {pieces : List Piece} {name : List Char}
    (h : Piece.join? pieces = some name) : joined pieces rest = .ok (name, rest) := by
  rw [joined, h]
  rfl

theorem head_string {name : List Char} (h : Spells cs name) (rest : List Char) :
    head ('"' :: (cs ++ '"' :: rest)) = .ok (.string name, rest) := by
  obtain ⟨pieces, hread, hjoin⟩ := Piece.readAll_spells h rest
  rw [head, bind_of_ok (lexeme_string hread)]
  exact bind_of_ok (joined_of_some hjoin)

theorem head_natural {n : ℕ} (hn : n < 2 ^ 64) (h : EndsNumber rest) :
    head (Text.digits n ++ rest) = .ok (.number (.integer n), rest) := by
  have hlexeme := lexeme_integer n h
  rw [Text.integer_natCast] at hlexeme
  rw [head, bind_of_ok hlexeme]
  simp only [Number.ofText?_ofInt hn]
  rfl

theorem head_array : head ('[' :: rest) = .ok (.array, rest) := by
  rw [head, bind_of_ok (show lexeme ('[' :: rest) = .ok (.openArray, rest) from
    bind_of_ok (token_cons (by decide)))]
  rfl

theorem head_object : head ('\x7b' :: rest) = .ok (.object, rest) := by
  rw [head, bind_of_ok (show lexeme ('\x7b' :: rest) = .ok (.openObject, rest) from
    bind_of_ok (token_cons (by decide)))]
  rfl

theorem key_spelled {name : List Char} (h : Spells cs name) (rest : List Char) :
    key ('"' :: (cs ++ '"' :: rest)) = .ok (name, rest) := by
  obtain ⟨pieces, hread, hjoin⟩ := Piece.readAll_spells h rest
  rw [key, bind_of_ok (expect_self (by decide)), bind_of_ok (ofOption_of_some hread)]
  exact joined_of_some hjoin

end Reader

/-! ## Items between brackets -/

def EndsItem (close : Char) (rest : List Char) : Prop :=
  rest.head? = some ',' ∨ rest.head? = some close

/-- A reader of items takes these texts one after another, and its result goes from the first to
the last. -/
inductive TakesAll {β : Type} (close : Char) (item : β → Reader β) : β → List (List Char) → β → Prop
  | nil {b : β} : TakesAll close item b [] b
  | cons {b b' b'' : β} {text : List Char} {texts : List (List Char)}
      (h : ∀ rest, EndsItem close rest → item b (text ++ rest) = .ok (b', rest))
      (rest : TakesAll close item b' texts b'') : TakesAll close item b (text :: texts) b''

theorem TakesAll.append {β : Type} {close : Char} {item : β → Reader β} {b b' b'' : β}
    {texts more : List (List Char)} (h : TakesAll close item b texts b')
    (hmore : TakesAll close item b' more b'') : TakesAll close item b (texts ++ more) b'' := by
  induction h with
  | nil => exact hmore
  | cons h _ ih => exact .cons h (ih hmore)

def moreTexts (texts : List (List Char)) : List Char := texts.flatMap (',' :: ·)

theorem intercalate_cons (text : List Char) (texts : List (List Char)) :
    List.intercalate [','] (text :: texts) = text ++ moreTexts texts := by
  induction texts generalizing text with
  | nil => simp [moreTexts]
  | cons next texts ih =>
    rw [List.intercalate_cons_cons, ih, List.append_assoc]
    rfl

theorem endsItem_moreTexts (close : Char) (texts : List (List Char)) (rest : List Char) :
    EndsItem close (moreTexts texts ++ close :: rest) := by
  cases texts with
  | nil => exact .inr rfl
  | cons text texts => exact .inl rfl

theorem length_le_moreTexts (texts : List (List Char)) :
    texts.length ≤ (moreTexts texts).length := by
  induction texts with
  | nil => exact Nat.le_refl 0
  | cons text texts ih =>
    rw [moreTexts, List.flatMap_cons, List.length_append, List.length_cons, List.length_cons]
    rw [moreTexts] at ih
    omega

namespace Reader

variable {β : Type} {close : Char} {item : β → Reader β} {b b' : β} {texts : List (List Char)}

theorem moreItems_takesAll (hclose : isBlank close = false ∧ close ≠ ',')
    (h : TakesAll close item b texts b') {bound : ℕ} (hbound : texts.length < bound)
    (rest : List Char) :
    moreItems close item bound b (moreTexts texts ++ close :: rest) = .ok (b', rest) := by
  induction h generalizing bound with
  | nil =>
    obtain ⟨k, rfl⟩ := Nat.exists_eq_succ_of_ne_zero (Nat.ne_of_gt hbound)
    change moreItems close item (k + 1) _ (close :: rest) = _
    rw [moreItems, bind_of_ok (token_cons hclose.1), if_pos rfl]
    rfl
  | @cons b b' b'' text texts h _ ih =>
    obtain ⟨k, rfl⟩ := Nat.exists_eq_succ_of_ne_zero (Nat.ne_of_gt (Nat.zero_lt_of_lt hbound))
    have htake := h _ (endsItem_moreTexts close texts rest)
    change moreItems close item (k + 1) b (',' :: (text ++ moreTexts texts) ++ close :: rest) = _
    rw [moreItems, List.cons_append, bind_of_ok (token_cons (by decide)), if_neg hclose.2.symm,
      if_pos rfl, List.append_assoc, bind_of_ok htake]
    exact ih (Nat.lt_of_succ_lt_succ hbound)

/-- Items with commas between them are all read, up to the closing bracket. -/
theorem items_takesAll (hclose : isBlank close = false ∧ close ≠ ',')
    (h : TakesAll close item b texts b')
    (hstart : ∀ text ∈ texts.head?, ∃ c ∈ text.head?, isBlank c = false ∧ c ≠ close)
    (rest : List Char) :
    items close item b (List.intercalate [','] texts ++ close :: rest) = .ok (b', rest) := by
  cases h with
  | nil =>
    change items close item b (close :: rest) = _
    rw [items, bind_of_ok (takes_self hclose.1)]
    rfl
  | @cons _ b₁ _ text texts h hall =>
    obtain ⟨c, hc, hblank, hne⟩ := hstart text rfl
    obtain ⟨cs, rfl⟩ := List.head?_eq_some_iff.mp hc
    have htake := h _ (endsItem_moreTexts close texts rest)
    -- each item that is left brings a comma at least, so the bound is never reached
    have hbound : texts.length < (moreTexts texts ++ close :: rest).length + 1 := by
      have hle := length_le_moreTexts texts
      rw [List.length_append]
      omega
    rw [intercalate_cons, List.append_assoc, items, List.cons_append,
      bind_of_ok (takes_other hblank hne)]
    rw [List.cons_append] at htake
    exact (bind_of_ok htake).trans (moreItems_takesAll hclose hall hbound rest)

end Reader
end FixedDecimal.Json
