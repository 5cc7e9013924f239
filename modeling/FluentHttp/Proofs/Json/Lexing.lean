import FluentHttp.Json.Basic
import FluentHttp.Json.Token
import Mathlib.Data.List.TakeWhile

/-!
# FluentHttp.Proofs.Json.Lexing

The tokens of a printed value (`tokens_text`): a string comes back as one token with its text, a
number or a word as one token of its own, and the rest is punctuation.

What follows a value must not start with a character of words, so that a number or a word ends where
the printer ended it.
-/

namespace FluentHttp.Json

/-! ### Strings -/

/-- A character that stands in a string as it is. -/
def IsPlain (c : Char) : Prop :=
  c ≠ '"' ∧ c ≠ '\\' ∧ ¬c.toNat < 0x20

theorem splitString_plain {c : Char} (h : IsPlain c) (rest : List Char) :
    splitString (c :: rest) =
      (splitString rest).map fun (body, after) => (c :: body, after) := by
  obtain ⟨hquote, hbackslash, hcontrol⟩ := h
  rw [splitString.eq_def]
  split
  next heq => cases heq
  next heq => exact absurd (List.cons.inj heq).1 hquote
  next heq => exact absurd (List.cons.inj heq).1 hbackslash
  next heq =>
    obtain ⟨rfl, rfl⟩ := List.cons.inj heq
    rw [if_neg hcontrol]

theorem splitString_backslash (c : Char) (rest : List Char) :
    splitString ('\\' :: c :: rest) =
      (splitString rest).map fun (body, after) => ('\\' :: c :: body, after) := by
  rw [splitString.eq_def]
  rfl

theorem unescape_plain {c : Char} (h : c ≠ '\\') (rest : List Char) :
    unescape (c :: rest) = (unescape rest).map (c.toNat :: ·) := by
  rw [unescape.eq_def]
  split
  next heq => cases heq
  next heq => exact absurd (List.cons.inj heq).1 h
  next heq => exact absurd (List.cons.inj heq).1 h
  next heq => exact absurd (List.cons.inj heq).1 h
  next heq =>
    obtain ⟨rfl, rfl⟩ := List.cons.inj heq
    cases unescape _ <;> rfl

theorem unescape_short {c char : Char} (h : shortEscape? c = some char) (rest : List Char) :
    unescape ('\\' :: c :: rest) = (unescape rest).map (char.toNat :: ·) := by
  have hne : c ≠ 'u' := by
    rintro rfl
    cases h
  rw [unescape.eq_def]
  split
  next heq => cases heq
  next heq => exact absurd (List.cons.inj (List.cons.inj heq).2).1 hne
  next heq =>
    obtain ⟨rfl, rfl⟩ := List.cons.inj (List.cons.inj heq).2
    rw [h]
    cases unescape _ <;> rfl
  next heq => cases heq
  next hother _ heq =>
    obtain ⟨hhead, htail⟩ := List.cons.inj heq
    exact (hother _ _ hhead.symm htail.symm).elim

/-- The digits of a control character are plain and have the values they were made from. -/
theorem hexDigit_spec {n : Nat} (h : n < 16) :
    IsPlain (hexDigit n) ∧ hexValue? (hexDigit n) = some n := by
  have hall : ∀ n < 16, IsPlain (hexDigit n) ∧ hexValue? (hexDigit n) = some n := by
    unfold IsPlain
    decide
  exact hall n h

/-- How a character stands in a string: by a short escape, as a control character by the digits of
its code, or as it is. -/
theorem escapeChar_cases (c : Char) :
    (∃ short, shortEscape? short = some c ∧ escapeChar c = ['\\', short]) ∨
    (c.toNat < 0x20 ∧ escapeChar c =
      ['\\', 'u', '0', '0', hexDigit (c.toNat / 16), hexDigit (c.toNat % 16)]) ∨
    (IsPlain c ∧ escapeChar c = [c]) := by
  by_cases hquote : c = '"'
  · subst hquote
    exact .inl ⟨'"', rfl, rfl⟩
  by_cases hbackslash : c = '\\'
  · subst hbackslash
    exact .inl ⟨'\\', rfl, rfl⟩
  by_cases hnewline : c = '\n'
  · subst hnewline
    exact .inl ⟨'n', rfl, rfl⟩
  by_cases hreturn : c = '\r'
  · subst hreturn
    exact .inl ⟨'r', rfl, rfl⟩
  by_cases htab : c = '\t'
  · subst htab
    exact .inl ⟨'t', rfl, rfl⟩
  by_cases hbackspace : c = '\x08'
  · subst hbackspace
    exact .inl ⟨'b', rfl, rfl⟩
  by_cases hfeed : c = '\x0c'
  · subst hfeed
    exact .inl ⟨'f', rfl, rfl⟩
  rw [escapeChar, if_neg hquote, if_neg hbackslash, if_neg hnewline, if_neg hreturn, if_neg htab,
    if_neg hbackspace, if_neg hfeed]
  by_cases hcontrol : c.toNat < 0x20
  · rw [if_pos hcontrol]
    exact .inr (.inl ⟨hcontrol, rfl⟩)
  · rw [if_neg hcontrol]
    exact .inr (.inr ⟨⟨hquote, hbackslash, hcontrol⟩, rfl⟩)

/-- An escaped character belongs to the string, as it does not close it. -/
theorem splitString_escapeChar (c : Char) (rest : List Char) :
    splitString (escapeChar c ++ rest) =
      (splitString rest).map fun (body, after) => (escapeChar c ++ body, after) := by
  rcases escapeChar_cases c with ⟨short, -, hescape⟩ | ⟨hcontrol, hescape⟩ | ⟨hplain, hescape⟩
  · rw [hescape]
    exact splitString_backslash short rest
  · have hhigh := (@hexDigit_spec (c.toNat / 16) (by omega)).1
    have hlow := (@hexDigit_spec (c.toNat % 16) (by omega)).1
    have hzero : IsPlain '0' := by unfold IsPlain; decide
    simp only [hescape, List.cons_append, List.nil_append]
    rw [splitString_backslash, splitString_plain hzero, splitString_plain hzero,
      splitString_plain hhigh, splitString_plain hlow]
    simp only [Option.map_map, Function.comp_def]
  · rw [hescape]
    exact splitString_plain hplain rest

/-- An escaped character denotes itself. -/
theorem unescape_escapeChar (c : Char) (rest : List Char) :
    unescape (escapeChar c ++ rest) = (unescape rest).map (c.toNat :: ·) := by
  rcases escapeChar_cases c with ⟨short, hvalue, hescape⟩ | ⟨hcontrol, hescape⟩ | ⟨hplain, hescape⟩
  · rw [hescape]
    exact unescape_short hvalue rest
  · have hhigh := (@hexDigit_spec (c.toNat / 16) (by omega)).2
    have hlow := (@hexDigit_spec (c.toNat % 16) (by omega)).2
    have hcode : 0 * 4096 + 0 * 256 + c.toNat / 16 * 16 + c.toNat % 16 = c.toNat := by omega
    have hzero : hexValue? '0' = some 0 := rfl
    simp only [hescape, List.cons_append, List.nil_append, unescape, hzero, hhigh, hlow,
      Option.bind_eq_bind, Option.bind_some, hcode]
    cases unescape rest <;> rfl
  · rw [hescape]
    exact unescape_plain hplain.2.1 rest

theorem splitString_flatMap (text rest : List Char) :
    splitString (text.flatMap escapeChar ++ '"' :: rest) =
      some (text.flatMap escapeChar, rest) := by
  induction text with
  | nil => rfl
  | cons c text ih =>
      rw [List.flatMap_cons, List.append_assoc, splitString_escapeChar, ih]
      rfl

theorem unescape_flatMap (text : List Char) :
    unescape (text.flatMap escapeChar) = some (text.map Char.toNat) := by
  induction text with
  | nil => rfl
  | cons c text ih =>
      rw [List.flatMap_cons, unescape_escapeChar, ih]
      rfl

/-- A character is no half of a surrogate pair. -/
theorem toNat_not_surrogate (c : Char) : c.toNat < 0xD800 ∨ 0xDFFF < c.toNat :=
  c.valid.imp id And.left

theorem joinSurrogates_cons (c : Char) (codes : List Nat) :
    joinSurrogates (c.toNat :: codes) = (joinSurrogates codes).map (c :: ·) := by
  have hc := toNat_not_surrogate c
  cases codes with
  | nil =>
      simp only [joinSurrogates, Char.ofNat_toNat, Option.map_some]
      exact if_neg (by omega)
  | cons code rest =>
      rw [joinSurrogates, if_neg (by omega), if_neg (by omega), Char.ofNat_toNat]

theorem joinSurrogates_map (text : List Char) :
    joinSurrogates (text.map Char.toNat) = some text := by
  induction text with
  | nil => rfl
  | cons c text ih =>
      rw [List.map_cons, joinSurrogates_cons, ih]
      rfl

/-- A printed string is one token with its text. -/
theorem tokens_quote (text : String) (rest : List Char) :
    tokens ((quote text).toList ++ rest) = .string (some text) :: tokens rest := by
  have hsplit := splitString_flatMap text.toList rest
  have hquote : (quote text).toList ++ rest =
      '"' :: (text.toList.flatMap escapeChar ++ '"' :: rest) := by
    simp [quote]
  rw [hquote, tokens, if_neg (by decide), if_pos rfl]
  split
  next heq =>
    obtain ⟨rfl, rfl⟩ := Prod.mk.inj (Option.some.inj (hsplit.symm.trans heq))
    rw [unescape_flatMap]
    simp only [joinSurrogates_map, Option.map_some, String.ofList_toList]
  next heq =>
    rw [hsplit] at heq
    cases heq

/-! ### Words and punctuation -/

theorem isSpace_of_isWordChar {c : Char} (h : isWordChar c = true) : isSpace c = false := by
  rw [Bool.eq_false_iff]
  intro hspace
  simp only [isSpace, Bool.or_eq_true, beq_iff_eq] at hspace
  rcases hspace with ((rfl | rfl) | rfl) | rfl <;> revert h <;> decide

theorem ne_quote_of_isWordChar {c : Char} (h : isWordChar c = true) : c ≠ '"' := by
  rintro rfl
  revert h
  decide

/-- What does not go on with a word. -/
def StartsNoWord (rest : List Char) : Prop :=
  ∀ c ∈ rest.head?, isWordChar c = false

/-- A run of word characters is one token. -/
theorem tokens_wordChars {word rest : List Char} (hne : word ≠ [])
    (hword : ∀ c ∈ word, isWordChar c = true) (hrest : StartsNoWord rest) :
    tokens (word ++ rest) = .ofWord word :: tokens rest := by
  obtain ⟨c, word, rfl⟩ := List.exists_cons_of_ne_nil hne
  obtain ⟨hfirst, hlater⟩ := List.forall_mem_cons.1 hword
  -- the run ends where `rest` starts
  have hstop : rest.takeWhile isWordChar = [] ∧ rest.dropWhile isWordChar = rest := by
    cases rest with
    | nil => simp
    | cons d rest => simp [hrest d (by simp)]
  rw [List.cons_append, tokens, if_neg (by simp [isSpace_of_isWordChar hfirst]),
    if_neg (ne_quote_of_isWordChar hfirst), if_pos hfirst, List.takeWhile_append_of_pos hlater,
    List.dropWhile_append_of_pos hlater, hstop.1, hstop.2, List.append_nil]

/-- A character of punctuation is a token of its own. -/
theorem tokens_punctuation {c : Char} {token : Token} (h : Token.ofPunctuation? c = some token)
    (rest : List Char) : tokens (c :: rest) = token :: tokens rest := by
  have hplain : isSpace c = false ∧ c ≠ '"' ∧ isWordChar c = false := by
    unfold Token.ofPunctuation? at h
    split at h
    case h_7 => cases h
    all_goals decide
  rw [tokens, if_neg (by simp [hplain.1]), if_neg hplain.2.1, if_neg (by simp [hplain.2.2]), h]

/-! ### Numbers -/

theorem digitChar_spec {n : Nat} (h : n < 10) :
    n.digitChar.isDigit = true ∧ (n.digitChar = '0' → n = 0) := by
  have hall : ∀ n < 10, n.digitChar.isDigit = true ∧ (n.digitChar = '0' → n = 0) := by decide
  exact hall n h

/-- The digits of a positive number start with none that is zero. -/
theorem exists_toDigits_eq_cons {n : Nat} (h : 0 < n) :
    ∃ c rest, Nat.toDigits 10 n = c :: rest ∧ c ≠ '0' := by
  induction n using Nat.strongRecOn with
  | ind n ih =>
      by_cases hsmall : n < 10
      · refine ⟨n.digitChar, [], Nat.toDigits_of_lt_base hsmall, fun hzero => ?_⟩
        have := (digitChar_spec hsmall).2 hzero
        omega
      · obtain ⟨c, rest, hdigits, hc⟩ := ih (n / 10) (by omega) (by omega)
        refine ⟨c, rest ++ [(n % 10).digitChar], ?_, hc⟩
        rw [Nat.toDigits_of_base_le (by decide) (by omega), hdigits, List.cons_append]

/-- The digits of a number are a whole part, with nothing behind it. -/
theorem dropWhole?_toDigits (n : Nat) : dropWhole? (Nat.toDigits 10 n) = some [] := by
  rcases Nat.eq_zero_or_pos n with rfl | hpos
  · rfl
  · obtain ⟨c, rest, hdigits, hc⟩ := exists_toDigits_eq_cons hpos
    have hall : ∀ d ∈ c :: rest, d.isDigit = true :=
      fun d hd => Nat.isDigit_of_mem_toDigits (by decide) (by decide) (hdigits ▸ hd)
    obtain ⟨hfirst, hlater⟩ := List.forall_mem_cons.1 hall
    rw [hdigits, dropWhole?.eq_def]
    split
    next heq => exact absurd (List.cons.inj heq).1 hc
    next => rw [dropDigits?, if_pos hfirst, List.dropWhile_eq_nil_iff.2 hlater]

theorem isWordChar_of_isDigit {c : Char} (h : c.isDigit = true) : isWordChar c = true := by
  simp [isWordChar, Char.isAlphanum, h]

/-- A printed number: digits, behind a sign if it is negative. -/
theorem toList_int_cases (value : Int) :
    ∃ n, (toString value).toList = Nat.toDigits 10 n ∨
      (toString value).toList = '-' :: Nat.toDigits 10 n := by
  rw [Int.toString_eq_repr, Int.repr_eq_if]
  split
  · exact ⟨value.toNat, .inl (by rw [Nat.repr_eq_ofList_toDigits, String.toList_ofList])⟩
  · refine ⟨(-value).toNat, .inr ?_⟩
    rw [Nat.repr_eq_ofList_toDigits, String.toList_append]
    exact congrArg ('-' :: ·) String.toList_ofList

theorem isWordChar_of_mem_int {value : Int} {c : Char} (h : c ∈ (toString value).toList) :
    isWordChar c = true := by
  have hdigit : ∀ {n}, c ∈ Nat.toDigits 10 n → isWordChar c = true :=
    fun hc => isWordChar_of_isDigit (Nat.isDigit_of_mem_toDigits (by decide) (by decide) hc)
  obtain ⟨n, hdigits | hsigned⟩ := toList_int_cases value
  · exact hdigit (hdigits ▸ h)
  · rcases List.mem_cons.1 (hsigned ▸ h) with rfl | hc
    · decide
    · exact hdigit hc

theorem isNumber_int (value : Int) : isNumber (toString value).toList = true := by
  obtain ⟨n, hdigits | hsigned⟩ := toList_int_cases value
  · have hunsigned : (Nat.toDigits 10 n).head? ≠ some '-' := by
      intro hhead
      have hdigit := Nat.isDigit_of_mem_toDigits (by decide) (by decide)
        (List.mem_of_mem_head? hhead)
      revert hdigit
      decide
    rw [hdigits, isNumber, if_neg hunsigned, dropWhole?_toDigits]
    rfl
  · rw [hsigned, isNumber, List.head?_cons, if_pos rfl, List.drop_one, List.tail_cons,
      dropWhole?_toDigits]
    rfl

theorem ofWord_of_isNumber {word : List Char} (h : isNumber word = true) :
    Token.ofWord word = .number word := by
  have hne : ∀ {other : List Char}, isNumber other = false → word ≠ other := by
    rintro other hother rfl
    rw [h] at hother
    cases hother
  rw [Token.ofWord, if_neg (hne (by decide)), if_neg (hne (by decide)), if_neg (hne (by decide)),
    if_pos h]

/-- A printed number is one token. -/
theorem tokens_int (value : Int) {rest : List Char} (hrest : StartsNoWord rest) :
    tokens ((toString value).toList ++ rest) =
      .number (toString value).toList :: tokens rest := by
  have hne : (toString value).toList ≠ [] := by
    obtain ⟨n, hdigits | hsigned⟩ := toList_int_cases value
    · rw [hdigits]
      exact Nat.toDigits_ne_nil
    · rw [hsigned]
      exact List.cons_ne_nil _ _
  rw [tokens_wordChars hne (fun _ => isWordChar_of_mem_int) hrest,
    ofWord_of_isNumber (isNumber_int value)]

/-! ### Values -/

mutual

/-- The tokens of a printed value. -/
def writtenTokens : Json → List Token
  | null => [.null]
  | bool value => [.bool value]
  | int value => [.number (toString value).toList]
  | string value => [.string (some value)]
  | array items => .openArray :: (writtenItems items ++ [.closeArray])
  | object fields => .openObject :: (writtenFields fields ++ [.closeObject])

/-- The tokens of the items of an array. -/
def writtenItems : List Json → List Token
  | [] => []
  | [item] => item.writtenTokens
  | item :: next :: rest => item.writtenTokens ++ .comma :: writtenItems (next :: rest)

/-- The tokens of the fields of an object. -/
def writtenFields : List (String × Json) → List Token
  | [] => []
  | [(key, value)] => .string (some key) :: .colon :: value.writtenTokens
  | (key, value) :: next :: rest =>
    .string (some key) :: .colon :: (value.writtenTokens ++ .comma :: writtenFields (next :: rest))

end

theorem startsNoWord_of_punctuation {c : Char} {rest : List Char}
    (h : isWordChar c = false) : StartsNoWord (c :: rest) := by
  rintro d hd
  cases Option.mem_some_iff.1 hd
  exact h

mutual

/-- A printed value is read as its tokens. -/
theorem tokens_text (json : Json) {rest : List Char} (hrest : StartsNoWord rest) :
    tokens (json.text.toList ++ rest) = json.writtenTokens ++ tokens rest := by
  match json with
  | null => exact tokens_wordChars (by decide) (List.all_eq_true.1 (by decide)) hrest
  | bool true => exact tokens_wordChars (by decide) (List.all_eq_true.1 (by decide)) hrest
  | bool false => exact tokens_wordChars (by decide) (List.all_eq_true.1 (by decide)) hrest
  | int value => exact tokens_int value hrest
  | string value => exact tokens_quote value rest
  | array items =>
      have htext : (array items).text.toList ++ rest =
          '[' :: ((itemsText items).toList ++ ']' :: rest) := by
        simp [text, String.toList_append]
      rw [htext, tokens_punctuation rfl,
        tokens_itemsText items (startsNoWord_of_punctuation (by decide)), tokens_punctuation rfl,
        writtenTokens]
      simp
  | object fields =>
      have htext : (object fields).text.toList ++ rest =
          '\x7b' :: ((fieldsText fields).toList ++ '\x7d' :: rest) := by
        simp [text, String.toList_append]
      rw [htext, tokens_punctuation rfl,
        tokens_fieldsText fields (startsNoWord_of_punctuation (by decide)), tokens_punctuation rfl,
        writtenTokens]
      simp

theorem tokens_itemsText (items : List Json) {rest : List Char} (hrest : StartsNoWord rest) :
    tokens ((itemsText items).toList ++ rest) = writtenItems items ++ tokens rest := by
  match items with
  | [] => rfl
  | [item] => exact tokens_text item hrest
  | item :: next :: later =>
      have htext : (itemsText (item :: next :: later)).toList ++ rest =
          item.text.toList ++ ',' :: ((itemsText (next :: later)).toList ++ rest) := by
        simp [itemsText, String.toList_append]
      rw [htext, tokens_text item (startsNoWord_of_punctuation (by decide)),
        tokens_punctuation rfl, tokens_itemsText (next :: later) hrest, writtenItems]
      simp

theorem tokens_fieldsText (fields : List (String × Json)) {rest : List Char}
    (hrest : StartsNoWord rest) :
    tokens ((fieldsText fields).toList ++ rest) = writtenFields fields ++ tokens rest := by
  match fields with
  | [] => rfl
  | [(key, value)] =>
      have htext : (fieldsText [(key, value)]).toList ++ rest =
          (quote key).toList ++ ':' :: (value.text.toList ++ rest) := by
        simp [fieldsText, String.toList_append]
      rw [htext, tokens_quote, tokens_punctuation rfl, tokens_text value hrest, writtenFields]
      simp
  | (key, value) :: next :: later =>
      have htext : (fieldsText ((key, value) :: next :: later)).toList ++ rest =
          (quote key).toList ++ ':' :: (value.text.toList ++
            ',' :: ((fieldsText (next :: later)).toList ++ rest)) := by
        simp [fieldsText, String.toList_append]
      rw [htext, tokens_quote, tokens_punctuation rfl,
        tokens_text value (startsNoWord_of_punctuation (by decide)), tokens_punctuation rfl,
        tokens_fieldsText (next :: later) hrest, writtenFields]
      simp

end

end FluentHttp.Json
