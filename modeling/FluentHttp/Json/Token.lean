/-!
# FluentHttp.Json.Token

The tokens of a JSON text. Reading stops at the first place that starts no token, which the last
token then records.

A string may be well formed and yet denote no text, if it escapes half of a surrogate pair. Such a
string is a token without a value: it does no harm where nothing asks for its text.
-/

namespace FluentHttp.Json

/-- A token of a JSON text. -/
inductive Token where
  | openObject
  | closeObject
  | openArray
  | closeArray
  | comma
  | colon
  | null
  | bool (value : Bool)
  /-- A number in its written form. -/
  | number (digits : List Char)
  /-- A string, with its text if it denotes one. -/
  | string (text : Option String)
  /-- The text stops being JSON here. -/
  | invalid
  deriving DecidableEq, Repr

/-! ### Numbers -/

/-- What follows a run of digits, if there is at least one. -/
def dropDigits? (cs : List Char) : Option (List Char) :=
  match cs with
  | c :: rest => if c.isDigit then some (rest.dropWhile Char.isDigit) else none
  | [] => none

/-- What follows the exponent of a number, if it is well formed or absent. -/
def dropExponent? : List Char → Option (List Char)
  | c :: rest =>
    if c = 'e' ∨ c = 'E' then
      match rest with
      | sign :: digits => if sign = '+' ∨ sign = '-' then dropDigits? digits else dropDigits? rest
      | [] => none
    else some (c :: rest)
  | [] => some []

/-- What follows the fraction of a number, if it is well formed or absent. -/
def dropFraction? : List Char → Option (List Char)
  | '.' :: rest => dropDigits? rest
  | cs => some cs

/-- What follows the whole part of a number: a single zero, or digits that start with none. -/
def dropWhole? : List Char → Option (List Char)
  | '0' :: rest => some rest
  | cs => dropDigits? cs

/-- Whether a text is a number. -/
def isNumber (cs : List Char) : Bool :=
  let unsigned := if cs.head? = some '-' then cs.drop 1 else cs
  match (dropWhole? unsigned).bind dropFraction? |>.bind dropExponent? with
  | some [] => true
  | _ => false

/-! ### Strings -/

/-- The body of a string and what follows its closing quote. Control characters may not stand in a
string as they are. -/
def splitString : List Char → Option (List Char × List Char)
  | [] => none
  | '"' :: rest => some ([], rest)
  | '\\' :: c :: rest => (splitString rest).map fun (body, after) => ('\\' :: c :: body, after)
  | c :: rest =>
    if c.toNat < 0x20 then none
    else (splitString rest).map fun (body, after) => (c :: body, after)

/-- What follows a string is shorter than the string. -/
theorem length_of_splitString {cs body after : List Char}
    (h : splitString cs = some (body, after)) : after.length < cs.length := by
  fun_induction splitString cs generalizing body after with
  | case1 => simp at h
  | case2 rest => simp_all
  | case3 c rest ih =>
    obtain ⟨⟨b, a⟩, hb, heq⟩ := Option.map_eq_some_iff.1 h
    have := ih hb
    simp_all; omega
  | case4 => simp at h
  | case5 c rest _ _ _ ih =>
    obtain ⟨⟨b, a⟩, hb, heq⟩ := Option.map_eq_some_iff.1 h
    have := ih hb
    simp_all; omega

/-- The value of a hexadecimal digit. -/
def hexValue? (c : Char) : Option Nat :=
  if c.isDigit then some (c.toNat - '0'.toNat)
  else if 'a' ≤ c ∧ c ≤ 'f' then some (c.toNat - 'a'.toNat + 10)
  else if 'A' ≤ c ∧ c ≤ 'F' then some (c.toNat - 'A'.toNat + 10)
  else none

/-- The character of a short escape. -/
def shortEscape? : Char → Option Char
  | '"' => some '"'
  | '\\' => some '\\'
  | '/' => some '/'
  | 'b' => some '\x08'
  | 'f' => some '\x0c'
  | 'n' => some '\n'
  | 'r' => some '\r'
  | 't' => some '\t'
  | _ => none

/-- The code points of a string body, surrogate halves among them; nothing if an escape is
malformed. -/
def unescape : List Char → Option (List Nat)
  | [] => some []
  | '\\' :: 'u' :: a :: b :: c :: d :: rest => do
    let code := (← hexValue? a) * 4096 + (← hexValue? b) * 256 + (← hexValue? c) * 16
      + (← hexValue? d)
    return code :: (← unescape rest)
  | '\\' :: c :: rest => do
    let char ← shortEscape? c
    return char.toNat :: (← unescape rest)
  | '\\' :: [] => none
  | c :: rest => return c.toNat :: (← unescape rest)

/-- The text of code points, surrogate pairs joined; nothing if a half stands alone. -/
def joinSurrogates : List Nat → Option (List Char)
  | [] => some []
  | [code] => if 0xD800 ≤ code ∧ code ≤ 0xDFFF then none else some [Char.ofNat code]
  | high :: low :: rest =>
    if 0xD800 ≤ high ∧ high ≤ 0xDBFF then
      if 0xDC00 ≤ low ∧ low ≤ 0xDFFF then
        (joinSurrogates rest).map
          (Char.ofNat (0x10000 + (high - 0xD800) * 0x400 + (low - 0xDC00)) :: ·)
      else none
    else if 0xDC00 ≤ high ∧ high ≤ 0xDFFF then none
    else (joinSurrogates (low :: rest)).map (Char.ofNat high :: ·)

/-! ### Tokens -/

/-- A character that words and numbers are made of. -/
def isWordChar (c : Char) : Bool :=
  c.isAlphanum || c == '+' || c == '-' || c == '.'

/-- The token of a run of word characters. -/
def Token.ofWord (word : List Char) : Token :=
  if word = "null".toList then .null
  else if word = "true".toList then .bool true
  else if word = "false".toList then .bool false
  else if isNumber word then .number word
  else .invalid

/-- The punctuation token of a character. -/
def Token.ofPunctuation? : Char → Option Token
  | '\x7b' => some .openObject
  | '\x7d' => some .closeObject
  | '[' => some .openArray
  | ']' => some .closeArray
  | ',' => some .comma
  | ':' => some .colon
  | _ => none

/-- A blank between tokens. -/
def isSpace (c : Char) : Bool :=
  c == ' ' || c == '\n' || c == '\r' || c == '\t'

/-- The tokens of a text, up to the first place where there is none. -/
def tokens (cs : List Char) : List Token :=
  match cs with
  | [] => []
  | c :: rest =>
    if isSpace c then tokens rest
    else if c = '"' then
      match _h : splitString rest with
      | some (body, after) =>
        match unescape body with
        | some codes => .string ((joinSurrogates codes).map String.ofList) :: tokens after
        | none => [.invalid]
      | none => [.invalid]
    else if isWordChar c then
      .ofWord (c :: rest.takeWhile isWordChar) :: tokens (rest.dropWhile isWordChar)
    else
      match Token.ofPunctuation? c with
      | some token => token :: tokens rest
      | none => [.invalid]
termination_by cs.length
decreasing_by
  · simp
  · have := length_of_splitString ‹_›
    simp; omega
  · have := (List.dropWhile_suffix isWordChar (l := rest)).length_le
    simp; omega
  · simp

end FluentHttp.Json
