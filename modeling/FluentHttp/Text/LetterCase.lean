import FluentHttp.Text.LetterCase.Tables

/-!
# FluentHttp.Text.LetterCase

Capital and small forms of text in all scripts. One character may map to several (`ß` to `SS`), and
a capital sigma at the end of a word has a small form of its own.
-/

namespace FluentHttp.Text

/-! ### Single characters -/

/-- The image of a code point under a run, if the run holds it. -/
def CaseRun.image? (run : CaseRun) (code : Nat) : Option Nat :=
  if run.first ≤ code && code ≤ run.last && (code - run.first) % run.step == 0 then
    some ((code : Int) + run.shift).toNat
  else
    none

/-- The image of a character under a case mapping; characters outside the tables stay. -/
def mapCase (sequences : List (Nat × List Nat)) (runs : List CaseRun) (c : Char) : List Char :=
  match sequences.lookup c.toNat with
  | some codes => codes.map Char.ofNat
  | none =>
    match runs.findSome? (·.image? c.toNat) with
    | some code => [Char.ofNat code]
    | none => [c]

/-- The capital form of a character. -/
def capital (c : Char) : List Char :=
  mapCase capitalSequences capitalRuns c

/-- The small form of a character on its own. -/
def small (c : Char) : List Char :=
  mapCase smallSequences smallRuns c

/-- A letter that comes in cases. -/
def isCased (c : Char) : Bool :=
  casedRanges.contains c

/-- A mark that casing looks through when it asks whether a word goes on. -/
def isCaseIgnorable (c : Char) : Bool :=
  caseIgnorableRanges.contains c

/-! ### Text -/

/-- The text with its first character in capital form. -/
def upperFirst (s : String) : String :=
  match s.toList with
  | [] => ""
  | c :: rest => String.ofList (capital c ++ rest)

/-- Whether the next character that casing looks at is a cased letter. -/
def meetsCased (cs : List Char) : Bool :=
  match cs.dropWhile isCaseIgnorable with
  | c :: _ => isCased c
  | [] => false

/-- Small forms of the characters of `rest`, where `before` holds the characters in front of it,
nearest first. A capital sigma that ends a word becomes the final sigma. -/
def smallFrom (before : List Char) : List Char → List Char
  | [] => []
  | c :: rest =>
    let image :=
      if c = 'Σ' then
        if meetsCased before && !meetsCased rest then ['ς'] else ['σ']
      else small c
    image ++ smallFrom (c :: before) rest

/-- The text in small letters. -/
def lowercase (s : String) : String :=
  String.ofList (smallFrom [] s.toList)

end FluentHttp.Text
