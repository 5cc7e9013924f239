import FluentHttp.Text.CharacterClass

/-!
# FluentHttp.TypeExpr.Token

The tokens of a type expression. A run of name characters is one token, any other character that is
not blank is a token of its own, and blanks only keep tokens apart.
-/

namespace FluentHttp.TypeExpr

open FluentHttp.Text

/-- A token of a type expression. -/
inductive Token where
  /-- A run of name characters. -/
  | word (name : String)
  /-- A single other character. -/
  | mark (char : Char)
  deriving DecidableEq, Repr

/-- A token with its place in the text, in bytes of UTF-8. -/
structure Lexeme where
  token : Token
  /-- The offset of the token's first byte. -/
  start : Nat
  /-- The offset of the byte after the token. -/
  stop : Nat
  deriving DecidableEq, Repr

/-- A character that names are made of. -/
def isNameChar (c : Char) : Bool :=
  isAlphanumeric c || c == '_' || c == '$'

/-- The length of text in bytes of UTF-8. -/
def byteLength : List Char → Nat
  | [] => 0
  | c :: rest => c.utf8Size + byteLength rest

/-- The lexemes of a text that starts at a given byte offset. -/
def lexemes (offset : Nat) : List Char → List Lexeme
  | [] => []
  | c :: rest =>
    if isBlank c then
      lexemes (offset + c.utf8Size) rest
    else if isNameChar c then
      let word := c :: rest.takeWhile isNameChar
      let stop := offset + byteLength word
      ⟨.word (String.ofList word), offset, stop⟩ :: lexemes stop (rest.dropWhile isNameChar)
    else
      let stop := offset + c.utf8Size
      ⟨.mark c, offset, stop⟩ :: lexemes stop rest
termination_by cs => cs.length
decreasing_by
  · simp
  · have := (List.dropWhile_suffix isNameChar (l := rest)).length_le
    simp; omega
  · simp

/-- The tokens of a text. -/
def tokens (cs : List Char) : List Token :=
  (lexemes 0 cs).map (·.token)

/-- Whether a word may stand as a name: it does not start with an ASCII digit. -/
def isIdentifier (word : String) : Bool :=
  match word.toList with
  | [] => false
  | c :: _ => !c.isDigit

end FluentHttp.TypeExpr
