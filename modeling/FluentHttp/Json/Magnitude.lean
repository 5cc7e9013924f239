/-!
# FluentHttp.Json.Magnitude

Which numbers can be stored. A number is stored as a double, and one that comes out infinite is
refused.

A double is made from the written form in two steps, each of them rounded: as many digits as fit
into 64 bits make a whole significand, and this is scaled by a power of ten. So at the very end of
the range it is these roundings, and not the exact value, that decide.
-/

namespace FluentHttp.Json

/-! ### Written forms -/

/-- The value of a decimal digit. -/
def digitValue (c : Char) : Nat :=
  c.toNat - '0'.toNat

/-- The number that a run of digits denotes. -/
def digitsValue (digits : List Char) : Nat :=
  digits.foldl (fun value c => value * 10 + digitValue c) 0

/-- The first number that does not fit into 64 bits. -/
def wordLimit : Nat :=
  Nat.pow 2 64

/-- Appends digits to a significand up to the first that would make it too large, and gives the
number of digits that are left. -/
def appendDigits (significand : Nat) : List Char → Nat × Nat
  | [] => (significand, 0)
  | c :: rest =>
    let longer := significand * 10 + digitValue c
    if longer < wordLimit then appendDigits longer rest else (significand, rest.length + 1)

/-- A significand scaled by a power of ten. -/
structure Scaled where
  significand : Nat
  exponent : Int
  deriving DecidableEq, Repr

/-- The number of a written form, without its sign and without the digits that do not fit. A digit
of the whole part that is left out counts as a zero. -/
def Scaled.ofDigits (digits : List Char) : Scaled :=
  let unsigned := if digits.head? = some '-' then digits.drop 1 else digits
  let whole := unsigned.takeWhile Char.isDigit
  let afterWhole := unsigned.dropWhile Char.isDigit
  let fraction := if afterWhole.head? = some '.' then (afterWhole.drop 1).takeWhile Char.isDigit
    else []
  let exponentText := (afterWhole.dropWhile fun c => c != 'e' && c != 'E').drop 1
  let exponentSize := digitsValue (exponentText.filter Char.isDigit)
  let exponent : Int := if exponentText.head? = some '-' then -exponentSize else exponentSize
  let (significand, zeros) := appendDigits 0 whole
  let (significand, ignored) := appendDigits significand fraction
  { significand, exponent := exponent + zeros - (fraction.length - ignored : Nat) }

/-! ### Doubles -/

/-- The number of binary digits of a double. -/
def doublePrecision : Nat := 53

/-- The double next to a whole number, an even one where two are equally near. There is no upper
limit. -/
def roundToDouble (value : Nat) : Nat :=
  let unit := Nat.pow 2 (value.log2 + 1 - doublePrecision)
  let below := value / unit
  let rest := value % unit
  if 2 * rest > unit ∨ (2 * rest = unit ∧ below % 2 = 1) then (below + 1) * unit else below * unit

/-- The first number that rounds to infinity: it lies halfway between the greatest double and the
next power of two. -/
def doubleLimit : Nat :=
  Nat.pow 2 1024 - Nat.pow 2 970

/-- The greatest power of ten that is a double. -/
def greatestPower : Nat := 308

/-- Whether a number comes out as a finite double. -/
def Scaled.isFinite (number : Scaled) : Bool :=
  if number.significand = 0 ∨ number.exponent < 0 then true
  else if number.exponent > greatestPower then false
  else
    let power := roundToDouble (Nat.pow 10 number.exponent.toNat)
    roundToDouble number.significand * power < doubleLimit

/-- Whether a number in its written form comes out as a finite double. -/
def fitsDouble (digits : List Char) : Bool :=
  (Scaled.ofDigits digits).isFinite

end FluentHttp.Json
