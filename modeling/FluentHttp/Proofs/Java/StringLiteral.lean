import FluentHttp.Proofs.Java.Lexing
import FluentHttp.Proofs.Json.Lexing

/-!
# FluentHttp.Proofs.Java.StringLiteral

String literals in the raw text of a program, where any character can also be written as a Unicode
escape: a backslash, the letter u once or more, and four hexadecimal digits. These escapes are taken
before anything else is looked at, so an escaped quote ends a literal, and the value of a literal
could hide one. A backslash starts no such escape if an odd number of backslashes stands in front of
it, and the printed form of a text has its backslashes in pairs, or in front of a character that is
not u. So a printed literal comes back whole (`readLiteral_quote`).
-/

namespace FluentHttp.Java

open Json (hexValue? joinSurrogates)

/-! ### Raw text -/

/-- The raw text of a program from some place on. -/
structure RawText where
  /-- The backslashes directly in front of the place are odd in number, so that another one starts
  no Unicode escape. -/
  afterOdd : Bool := false
  chars : List Char

namespace RawText

/-- The code of a Unicode escape, from behind its backslash, and what follows it. -/
def unicodeEscape? (cs : List Char) : Option (Nat × List Char) :=
  match cs.dropWhile (· == 'u') with
  | a :: b :: c :: d :: rest => do
    let code := (← hexValue? a) * 4096 + (← hexValue? b) * 256 + (← hexValue? c) * 16
      + (← hexValue? d)
    return (code, rest)
  | _ => none

/-- The code of the next character, and the text behind it. A Unicode escape is one character, and
may be half of a surrogate pair; one that is malformed is none. -/
def next? (text : RawText) : Option (Nat × RawText) :=
  match text.chars with
  | [] => none
  | '\\' :: rest =>
    if text.afterOdd = false ∧ rest.head? = some 'u' then
      (unicodeEscape? rest).map fun escape => (escape.1, { chars := escape.2 })
    else some ('\\'.toNat, { afterOdd := !text.afterOdd, chars := rest })
  | c :: rest => some (c.toNat, { chars := rest })

theorem length_of_unicodeEscape? {cs : List Char} {escape : Nat × List Char}
    (h : unicodeEscape? cs = some escape) : escape.2.length < cs.length := by
  have hdrop := (List.dropWhile_suffix (· == 'u') (l := cs)).length_le
  unfold unicodeEscape? at h
  split at h
  next a b c d rest heq =>
    obtain ⟨_, -, h⟩ := Option.bind_eq_some_iff.1 h
    obtain ⟨_, -, h⟩ := Option.bind_eq_some_iff.1 h
    obtain ⟨_, -, h⟩ := Option.bind_eq_some_iff.1 h
    obtain ⟨_, -, h⟩ := Option.bind_eq_some_iff.1 h
    obtain rfl := Option.some.inj h
    rw [heq] at hdrop
    simp only [List.length_cons] at hdrop
    dsimp only
    omega
  next => cases h

theorem length_of_next? {text : RawText} {next : Nat × RawText} (h : text.next? = some next) :
    next.2.chars.length < text.chars.length := by
  unfold next? at h
  split at h
  next => cases h
  next rest heq =>
    rw [heq]
    split_ifs at h
    · obtain ⟨escape, hescape, rfl⟩ := Option.map_eq_some_iff.1 h
      exact (length_of_unicodeEscape? hescape).trans (Nat.lt_succ_self _)
    · obtain rfl := Option.some.inj h
      exact Nat.lt_succ_self _
  next c rest _ heq =>
    rw [heq]
    obtain rfl := Option.some.inj h
    exact Nat.lt_succ_self _

end RawText

/-! ### Literals -/

/-- The codes of a string literal from behind its opening quote, and what follows its closing
quote. -/
def literalCodes (text : RawText) : Option (List Nat × List Char) :=
  match _h : text.next? with
  | none => none
  | some next =>
    if next.1 = '"'.toNat then some ([], next.2.chars)
    -- A literal stays in its line, and a line end written as a Unicode escape is one, too.
    else if next.1 = '\n'.toNat ∨ next.1 = '\r'.toNat then none
    else if next.1 = '\\'.toNat then
      match _h' : next.2.next? with
      | none => none
      | some named =>
        (unescape? (Char.ofNat named.1)).bind fun char =>
          (literalCodes named.2).map fun split => (char.toNat :: split.1, split.2)
    else (literalCodes next.2).map fun split => (next.1 :: split.1, split.2)
termination_by text.chars.length
decreasing_by
  · exact (RawText.length_of_next? _h').trans (RawText.length_of_next? _h)
  · exact RawText.length_of_next? _h

/-- The text that a program means by a string literal, and what follows the literal. Nothing if the
program does not go on with a literal of a text. -/
def readLiteral (cs : List Char) : Option (String × List Char) :=
  (RawText.next? { chars := cs }).bind fun next =>
    if next.1 = '"'.toNat then
      (literalCodes next.2).bind fun split =>
        (joinSurrogates split.1).map fun text => (String.ofList text, split.2)
    else none

/-! ### Characters of a printed literal -/

namespace RawText

/-- Any character but a backslash stands for itself, and is no backslash in front of the next. -/
theorem next?_of_ne {c : Char} (h : c ≠ '\\') (odd : Bool) (rest : List Char) :
    next? { afterOdd := odd, chars := c :: rest } = some (c.toNat, { chars := rest }) := by
  unfold next?
  dsimp only
  split
  next heq => cases heq
  next heq => exact absurd (List.cons.inj heq).1 h
  next heq =>
    obtain ⟨rfl, rfl⟩ := List.cons.inj heq
    rfl

/-- A backslash behind a pair of them starts no Unicode escape if no u follows. -/
theorem next?_backslash {rest : List Char} (h : rest.head? ≠ some 'u') :
    next? { chars := '\\' :: rest } = some ('\\'.toNat, { afterOdd := true, chars := rest }) := by
  unfold next?
  exact if_neg fun hescape => h hescape.2

/-- Behind an odd number of backslashes any character stands for itself, another backslash, too,
and an even number of them stands in front of the next. -/
theorem next?_of_afterOdd (c : Char) (rest : List Char) :
    next? { afterOdd := true, chars := c :: rest } = some (c.toNat, { chars := rest }) := by
  by_cases hbackslash : c = '\\'
  · subst hbackslash
    unfold next?
    exact if_neg fun hescape => Bool.noConfusion hescape.1
  · exact next?_of_ne hbackslash true rest

end RawText

theorem unescape?_ne {c d : Char} (h : unescape? d = some c) : d ≠ 'u' ∧ d ≠ '\n' ∧ d ≠ '\r' := by
  refine ⟨?_, ?_, ?_⟩ <;> rintro rfl <;> cases h

theorem toNat_ne {c d : Char} (h : c ≠ d) : c.toNat ≠ d.toNat :=
  fun heq => h (Char.toNat_inj.1 heq)

/-- What a literal goes on with is told by its next character. -/
theorem literalCodes_of_next? {text : RawText} {next : Nat × RawText} (h : text.next? = some next) :
    literalCodes text =
      if next.1 = '"'.toNat then some ([], next.2.chars)
      else if next.1 = '\n'.toNat ∨ next.1 = '\r'.toNat then none
      else if next.1 = '\\'.toNat then
        next.2.next?.bind fun named => (unescape? (Char.ofNat named.1)).bind fun char =>
          (literalCodes named.2).map fun split => (char.toNat :: split.1, split.2)
      else (literalCodes next.2).map fun split => (next.1 :: split.1, split.2) := by
  rw [literalCodes]
  split
  next hnone => exact absurd (h.symm.trans hnone) (Option.some_ne_none _)
  next _ hsome =>
    obtain rfl := Option.some.inj (h.symm.trans hsome)
    -- The two sides are alike but for the equation that the recursion needs to end.
    split_ifs
    · rfl
    · rfl
    · split
      next hnone => rw [hnone, Option.bind_none]
      next named hnamed => rw [hnamed, Option.bind_some]
    · rfl

theorem literalCodes_quote (rest : List Char) :
    literalCodes { chars := '"' :: rest } = some ([], rest) := by
  rw [literalCodes_of_next? (RawText.next?_of_ne (by decide) false rest)]
  exact if_pos rfl

theorem literalCodes_plain {c : Char} (hquote : c ≠ '"') (hbackslash : c ≠ '\\') (hline : c ≠ '\n')
    (hreturn : c ≠ '\r') (rest : List Char) :
    literalCodes { chars := c :: rest } =
      (literalCodes { chars := rest }).map fun split => (c.toNat :: split.1, split.2) := by
  rw [literalCodes_of_next? (RawText.next?_of_ne hbackslash false rest), if_neg (toNat_ne hquote),
    if_neg (not_or.2 ⟨toNat_ne hline, toNat_ne hreturn⟩), if_neg (toNat_ne hbackslash)]

theorem literalCodes_backslash {c d : Char} (h : unescape? d = some c) (rest : List Char) :
    literalCodes { chars := '\\' :: d :: rest } =
      (literalCodes { chars := rest }).map fun split => (c.toNat :: split.1, split.2) := by
  have hnext := @RawText.next?_backslash (d :: rest)
    fun hu => (unescape?_ne h).1 (Option.some.inj hu)
  have hquote : '\\'.toNat ≠ '"'.toNat := by decide
  have hline : ¬('\\'.toNat = '\n'.toNat ∨ '\\'.toNat = '\r'.toNat) := by decide
  rw [literalCodes_of_next? hnext, if_neg hquote, if_neg hline, if_pos rfl,
    RawText.next?_of_afterOdd, Option.bind_some, Char.ofNat_toNat, h, Option.bind_some]

/-- A character comes back from its place in a literal. Behind it no backslash is left that is not
one of a pair, so the next character is read as if it were the first. -/
theorem literalCodes_escape (c : Char) (rest : List Char) :
    literalCodes { chars := escape c ++ rest } =
      (literalCodes { chars := rest }).map fun split => (c.toNat :: split.1, split.2) := by
  obtain ⟨d, hescape, hunescape⟩ | ⟨hescape, hquote, hbackslash, hline, hreturn⟩ := escape_cases c
  · rw [hescape]
    exact literalCodes_backslash hunescape rest
  · rw [hescape]
    exact literalCodes_plain hquote hbackslash hline hreturn rest

theorem literalCodes_flatMap (value rest : List Char) :
    literalCodes { chars := value.flatMap escape ++ '"' :: rest } =
      some (value.map Char.toNat, rest) := by
  induction value with
  | nil => exact literalCodes_quote rest
  | cons c value ih => rw [List.flatMap_cons, List.append_assoc, literalCodes_escape, ih]; rfl

/-- A printed character is no line end. -/
theorem not_mem_escape (c : Char) : '\n' ∉ escape c ∧ '\r' ∉ escape c := by
  obtain ⟨d, hescape, hunescape⟩ | ⟨hescape, -, -, hline, hreturn⟩ := escape_cases c
  · obtain ⟨-, hline, hreturn⟩ := unescape?_ne hunescape
    simp [hescape, hline.symm, hreturn.symm]
  · simp [hescape, hline.symm, hreturn.symm]

theorem not_mem_quote (value : String) :
    '\n' ∉ (quote value).toList ∧ '\r' ∉ (quote value).toList := by
  have hquote : (quote value).toList = '"' :: (value.toList.flatMap escape ++ ['"']) := by
    simp [quote]
  simp [hquote, not_mem_escape]

/-- A printed literal is read back up to its end, and no farther, whatever follows it. It stays in
one line. -/
theorem readLiteral_quote (value text : String) :
    readLiteral (quote value ++ text).toList = some (value, text.toList) ∧
      '\n' ∉ (quote value).toList ∧ '\r' ∉ (quote value).toList := by
  refine ⟨?_, not_mem_quote value⟩
  have hquote : (quote value ++ text).toList =
      '"' :: (value.toList.flatMap escape ++ '"' :: text.toList) := by
    simp [quote]
  rw [hquote, readLiteral, RawText.next?_of_ne (by decide)]
  dsimp only [Option.bind_some]
  rw [if_pos rfl, literalCodes_flatMap]
  dsimp only [Option.bind_some]
  rw [Json.joinSurrogates_map, Option.map_some, String.ofList_toList]

/-- A Unicode escape is read wherever a backslash starts one, and nowhere else. -/
example : readLiteral "\"\\uu0041\\\\u0041\\u0022;".toList = some ("A\\u0041", [';']) := by
  decide +kernel

end FluentHttp.Java
