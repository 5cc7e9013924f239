import FluentHttp.Java.Printer
import FluentHttp.Proofs.Text.Segments
import FluentHttp.Proofs.TypeExpr.Canonical
import FluentHttp.Proofs.TypeExpr.Variables
import Mathlib.Data.List.TakeWhile
import Mathlib.Tactic.IntervalCases
import Mathlib.Tactic.SplitIfs

/-!
# FluentHttp.Proofs.Java.Lexing

The tokens of source text, as far as expressions need them, and those of a printed expression
(`Expr.Plain.tokens_text`): a string literal comes back as one token with its value, and a name, a
number or a comparison as one token of its own.

A number takes the dot behind it along, so a number that something is selected from does not come
back as it was printed.
-/

namespace FluentHttp.Java

open FluentHttp.Text TypeExpr

/-! ### Tokens -/

/-- A token of source text. -/
inductive Token where
  /-- A name, a keyword or a number. -/
  | word (text : String)
  /-- A string literal with its value. -/
  | string (value : String)
  | comparison (op : Comparison)
  /-- A single other character. -/
  | mark (char : Char)
  deriving DecidableEq, Repr

/-- The character that stands behind a backslash for another one. -/
def unescape? : Char → Option Char
  | '"' => some '"'
  | '\'' => some '\''
  | '\\' => some '\\'
  | 'b' => some '\x08'
  | 'f' => some '\x0c'
  | 'n' => some '\n'
  | 'r' => some '\r'
  | 's' => some ' '
  | 't' => some '\t'
  | _ => none

/-- The value of a string literal behind its opening quote, and what follows its closing quote. A
literal does not go on in another line. -/
def splitQuoted : List Char → Option (List Char × List Char)
  | [] => none
  | '"' :: rest => some ([], rest)
  | '\\' :: c :: rest =>
    (unescape? c).bind fun char =>
      (splitQuoted rest).map fun split => (char :: split.1, split.2)
  | c :: rest =>
    if c = '\n' ∨ c = '\r' then none
    else (splitQuoted rest).map fun split => (c :: split.1, split.2)

/-- What follows a string literal is shorter than the literal. -/
theorem length_of_splitQuoted {cs : List Char} {split : List Char × List Char}
    (h : splitQuoted cs = some split) : split.2.length < cs.length := by
  fun_induction splitQuoted cs generalizing split with
  | case1 => cases h
  | case2 rest =>
      obtain rfl := Option.some.inj h
      exact Nat.lt_succ_self _
  | case3 c rest ih =>
      obtain ⟨char, -, hrest⟩ := Option.bind_eq_some_iff.1 h
      obtain ⟨after, hsplit, rfl⟩ := Option.map_eq_some_iff.1 hrest
      exact (ih hsplit).trans (Nat.lt_add_of_pos_right Nat.two_pos)
  | case4 => cases h
  | case5 c rest _ _ _ ih =>
      obtain ⟨after, hsplit, rfl⟩ := Option.map_eq_some_iff.1 h
      exact (ih hsplit).trans (Nat.lt_succ_self _)

/-- The tokens of a text. A run of name characters is one token, and takes a dot along if it starts
like a number. A literal that is not closed ends the text. -/
def tokens : List Char → List Token
  | [] => []
  | c :: rest =>
    if isBlank c then tokens rest
    else if isNameChar c then
      let word := c :: rest.takeWhile isNameChar
      let after := rest.dropWhile isNameChar
      if c.isDigit && after.head? == some '.' then
        .word (String.ofList (word ++ ['.'])) :: tokens after.tail
      else .word (String.ofList word) :: tokens after
    else if c = '"' then
      match _h : splitQuoted rest with
      | some split => .string (String.ofList split.1) :: tokens split.2
      | none => [.mark c]
    else if c = '=' ∧ rest.head? = some '=' then .comparison .equal :: tokens rest.tail
    else if c = '!' ∧ rest.head? = some '=' then .comparison .notEqual :: tokens rest.tail
    else .mark c :: tokens rest
termination_by cs => cs.length
decreasing_by
  all_goals have hafter := (List.dropWhile_suffix isNameChar (l := rest)).length_le
  all_goals simp only [List.length_cons, List.length_tail]
  · omega
  · omega
  · omega
  · have := length_of_splitQuoted _h
    omega
  · omega
  · omega
  · omega

/-! ### Single tokens -/

@[simp] theorem tokens_nil : tokens [] = [] := by
  rw [tokens]

theorem tokens_blank {c : Char} (h : isBlank c = true) (rest : List Char) :
    tokens (c :: rest) = tokens rest := by
  rw [tokens, if_pos h]

/-- A character that is a token of its own wherever it stands. -/
structure IsMark (c : Char) : Prop where
  not_blank : isBlank c = false
  not_nameChar : isNameChar c = false
  not_special : c ≠ '"' ∧ c ≠ '=' ∧ c ≠ '!'

instance (c : Char) : Decidable (IsMark c) :=
  decidable_of_iff (isBlank c = false ∧ isNameChar c = false ∧ c ≠ '"' ∧ c ≠ '=' ∧ c ≠ '!')
    ⟨fun ⟨hblank, hname, hspecial⟩ => ⟨hblank, hname, hspecial⟩,
      fun ⟨hblank, hname, hspecial⟩ => ⟨hblank, hname, hspecial⟩⟩

theorem tokens_mark {c : Char} (h : IsMark c) (rest : List Char) :
    tokens (c :: rest) = .mark c :: tokens rest := by
  obtain ⟨hquote, hequal, hnot⟩ := h.not_special
  rw [tokens, if_neg (by simp [h.not_blank]), if_neg (by simp [h.not_nameChar]), if_neg hquote,
    if_neg fun heq => hequal heq.1, if_neg fun heq => hnot heq.1]

theorem tokens_comparison (op : Comparison) (rest : List Char) :
    tokens (op.text.toList ++ rest) = .comparison op :: tokens rest := by
  cases op with
  | equal =>
      change tokens ('=' :: '=' :: rest) = _
      rw [tokens, if_neg (by decide), if_neg (by decide), if_neg (by decide), if_pos ⟨rfl, rfl⟩,
        List.tail_cons]
  | notEqual =>
      change tokens ('!' :: '=' :: rest) = _
      rw [tokens, if_neg (by decide), if_neg (by decide), if_neg (by decide),
        if_neg fun heq => absurd heq.1 (by decide), if_pos ⟨rfl, rfl⟩, List.tail_cons]

/-- What does not go on with a name. -/
def StartsNoWord (rest : List Char) : Prop :=
  ∀ c ∈ rest.head?, isNameChar c = false

theorem startsNoWord_nil : StartsNoWord [] :=
  nofun

theorem startsNoWord_cons {c : Char} (h : isNameChar c = false) (rest : List Char) :
    StartsNoWord (c :: rest) := by
  rintro d hd
  rwa [← Option.some.inj hd]

theorem takeWhile_append_of_startsNoWord (cs : List Char) {rest : List Char}
    (h : StartsNoWord rest) : (cs ++ rest).takeWhile isNameChar = cs.takeWhile isNameChar ∧
      (cs ++ rest).dropWhile isNameChar = cs.dropWhile isNameChar ++ rest := by
  induction cs with
  | nil =>
      cases rest with
      | nil => exact ⟨rfl, rfl⟩
      | cons d rest => simp [h d rfl]
  | cons c cs ih =>
      cases hname : isNameChar c with
      | true => simp [hname, ih]
      | false => simp [hname]

/-- A run of name characters is one token. If it starts with a digit, no dot may follow it. -/
theorem tokens_word_append {word rest : List Char} (hne : word ≠ [])
    (hword : ∀ c ∈ word, isNameChar c = true) (hrest : StartsNoWord rest)
    (hdot : (∀ c ∈ word.head?, c.isDigit = false) ∨ rest.head? ≠ some '.') :
    tokens (word ++ rest) = .word (String.ofList word) :: tokens rest := by
  obtain ⟨c, word, rfl⟩ := List.exists_cons_of_ne_nil hne
  obtain ⟨hfirst, hlater⟩ := List.forall_mem_cons.1 hword
  obtain ⟨htake, hdrop⟩ := takeWhile_append_of_startsNoWord word hrest
  have hnumber : ¬(c.isDigit && rest.head? == some '.') = true := by
    rcases hdot with hdigit | hdot
    · simp [hdigit c rfl]
    · simp [hdot]
  have hall := List.takeWhile_eq_self_iff.2 hlater
  have hnone := List.dropWhile_eq_nil_iff.2 hlater
  rw [List.cons_append, tokens, if_neg (by simp [isBlank_of_isNameChar hfirst]), if_pos hfirst]
  simp only [htake, hdrop, hall, hnone, List.nil_append]
  rw [if_neg hnumber]

theorem isNameChar_of_isDigit {c : Char} (h : c.isDigit = true) : isNameChar c = true := by
  have hrange : 48 ≤ c.toNat ∧ c.toNat ≤ 57 := by
    simpa [Char.isDigit, UInt32.le_iff_toNat_le] using h
  have hdigits : ∀ n, 48 ≤ n ∧ n ≤ 57 → isNameChar (Char.ofNat n) = true := by
    rintro n ⟨hlow, hhigh⟩
    interval_cases n <;> decide
  simpa using hdigits c.toNat hrange

/-- What starts like a number takes the dot behind it along. -/
theorem tokens_number_dot {word : List Char} (hne : word ≠ [])
    (hword : ∀ c ∈ word, isNameChar c = true) (hdigit : ∀ c ∈ word.head?, c.isDigit = true)
    (rest : List Char) :
    tokens (word ++ '.' :: rest) = .word (String.ofList (word ++ ['.'])) :: tokens rest := by
  obtain ⟨c, word, rfl⟩ := List.exists_cons_of_ne_nil hne
  obtain ⟨hfirst, hlater⟩ := List.forall_mem_cons.1 hword
  have hrest : StartsNoWord ('.' :: rest) := startsNoWord_cons (by decide) rest
  obtain ⟨htake, hdrop⟩ := takeWhile_append_of_startsNoWord word hrest
  have hall := List.takeWhile_eq_self_iff.2 hlater
  have hnone := List.dropWhile_eq_nil_iff.2 hlater
  rw [List.cons_append, tokens, if_neg (by simp [isBlank_of_isNameChar hfirst]), if_pos hfirst]
  simp only [htake, hdrop, hall, hnone, List.nil_append]
  rw [if_pos (by simp [hdigit c rfl]), List.tail_cons, List.cons_append]

/-! ### String literals -/

theorem splitQuoted_plain {c : Char} (hquote : c ≠ '"') (hbackslash : c ≠ '\\') (hline : c ≠ '\n')
    (hreturn : c ≠ '\r') (rest : List Char) :
    splitQuoted (c :: rest) = (splitQuoted rest).map fun split => (c :: split.1, split.2) := by
  rw [splitQuoted.eq_def]
  split
  next heq => cases heq
  next heq => exact absurd (List.cons.inj heq).1 hquote
  next heq => exact absurd (List.cons.inj heq).1 hbackslash
  next heq =>
    obtain ⟨rfl, rfl⟩ := List.cons.inj heq
    rw [if_neg (not_or.2 ⟨hline, hreturn⟩)]

theorem splitQuoted_backslash {c char : Char} (h : unescape? c = some char) (rest : List Char) :
    splitQuoted ('\\' :: c :: rest) =
      (splitQuoted rest).map fun split => (char :: split.1, split.2) := by
  rw [splitQuoted, h]
  rfl

/-- A character stands in a literal behind a backslash, or as it is. -/
theorem escape_cases (c : Char) :
    (∃ d, escape c = ['\\', d] ∧ unescape? d = some c) ∨
      escape c = [c] ∧ c ≠ '"' ∧ c ≠ '\\' ∧ c ≠ '\n' ∧ c ≠ '\r' := by
  unfold escape
  split_ifs with hquote hbackslash hline hreturn htab
  · exact .inl ⟨'"', rfl, congrArg some hquote.symm⟩
  · exact .inl ⟨'\\', rfl, congrArg some hbackslash.symm⟩
  · exact .inl ⟨'n', rfl, congrArg some hline.symm⟩
  · exact .inl ⟨'r', rfl, congrArg some hreturn.symm⟩
  · exact .inl ⟨'t', rfl, congrArg some htab.symm⟩
  · exact .inr ⟨rfl, hquote, hbackslash, hline, hreturn⟩

/-- A character comes back from its place in a literal. -/
theorem splitQuoted_escape (c : Char) (rest : List Char) :
    splitQuoted (escape c ++ rest) =
      (splitQuoted rest).map fun split => (c :: split.1, split.2) := by
  obtain ⟨d, hescape, hunescape⟩ | ⟨hescape, hquote, hbackslash, hline, hreturn⟩ := escape_cases c
  · rw [hescape]
    exact splitQuoted_backslash hunescape rest
  · rw [hescape]
    exact splitQuoted_plain hquote hbackslash hline hreturn rest

theorem splitQuoted_flatMap (text rest : List Char) :
    splitQuoted (text.flatMap escape ++ '"' :: rest) = some (text, rest) := by
  induction text with
  | nil => rfl
  | cons c text ih => rw [List.flatMap_cons, List.append_assoc, splitQuoted_escape, ih]; rfl

/-- A printed literal is one token with its text. -/
theorem tokens_quote (text : String) (rest : List Char) :
    tokens ((quote text).toList ++ rest) = .string text :: tokens rest := by
  have hsplit := splitQuoted_flatMap text.toList rest
  have hquote : (quote text).toList ++ rest =
      '"' :: (text.toList.flatMap escape ++ '"' :: rest) := by
    simp [quote]
  rw [hquote, tokens, if_neg (by decide), if_neg (by decide), if_pos rfl]
  split
  next heq =>
    obtain rfl := Option.some.inj (hsplit.symm.trans heq)
    rw [String.ofList_toList]
  next heq =>
    rw [hsplit] at heq
    cases heq

/-! ### Types -/

/-- The characters of types that are neither blank nor in names. -/
def typeMarks : List Char :=
  ['.', '<', '>', ',', '?', '[', ']']

/-- Whether a token can stand in a type. -/
def Token.isTypePart : Token → Bool
  | .word _ => true
  | .mark c => typeMarks.contains c
  | .string _ | .comparison _ => false

/-- Text of a type, as far as its characters tell. -/
def IsTypeText (cs : List Char) : Prop :=
  ∀ c ∈ cs, isBlank c = true ∨ isNameChar c = true ∨ c ∈ typeMarks

theorem isMark_of_mem_typeMarks {c : Char} (h : c ∈ typeMarks) : IsMark c := by
  have hall : typeMarks.all fun c => decide (IsMark c) := by decide
  exact of_decide_eq_true (List.all_eq_true.1 hall c h)

/-- What follows a type: nothing that its last word would take along. -/
structure EndsType (rest : List Char) : Prop where
  startsNoWord : StartsNoWord rest
  ne_dot : rest.head? ≠ some '.'

theorem endsType_nil : EndsType [] :=
  ⟨startsNoWord_nil, nofun⟩

theorem endsType_cons {c : Char} (hname : isNameChar c = false) (hdot : c ≠ '.')
    (rest : List Char) : EndsType (c :: rest) :=
  ⟨startsNoWord_cons hname rest, fun h => hdot (Option.some.inj h)⟩

theorem EndsType.append {cs rest : List Char} (hcs : StartsNoWord cs) (hrest : EndsType rest) :
    StartsNoWord (cs ++ rest) ∧ (cs.head? ≠ some '.' → (cs ++ rest).head? ≠ some '.') := by
  cases cs with
  | nil => exact ⟨hrest.startsNoWord, fun _ => hrest.ne_dot⟩
  | cons c cs => exact ⟨hcs, id⟩

/-- Text that starts with a name character starts with a word. -/
theorem exists_word_of_isNameChar {c : Char} (hname : isNameChar c = true) (cs : List Char) :
    ∃ before after text, c :: cs = before ++ after ∧ before ≠ [] ∧
      ∀ rest, EndsType rest →
        tokens (before ++ (after ++ rest)) = .word text :: tokens (after ++ rest) := by
  set word := c :: cs.takeWhile isNameChar with hword
  set after := cs.dropWhile isNameChar with hafter
  have hsplit : c :: cs = word ++ after := by
    rw [hword, List.cons_append, List.takeWhile_append_dropWhile]
  have hchars : ∀ d ∈ word, isNameChar d = true :=
    List.forall_mem_cons.2 ⟨hname, fun d hd => List.mem_takeWhile_imp hd⟩
  have hstop : StartsNoWord after := fun d hd => by
    have hnot := List.head?_dropWhile_not isNameChar cs
    rw [← hafter, Option.mem_def.1 hd] at hnot
    simpa using hnot
  by_cases hnumber : c.isDigit = true ∧ after.head? = some '.'
  · obtain ⟨hdigit, hdot⟩ := hnumber
    obtain ⟨others, hcons⟩ := List.head?_eq_some_iff.1 hdot
    refine ⟨word ++ ['.'], others, String.ofList (word ++ ['.']), ?_, ?_, fun rest _ => ?_⟩
    · rw [hsplit, hcons, List.append_assoc, List.singleton_append]
    · exact List.cons_ne_nil _ _
    · rw [List.append_assoc, List.singleton_append]
      exact tokens_number_dot (List.cons_ne_nil _ _) hchars (by simpa [hword] using hdigit) _
  · refine ⟨word, after, String.ofList word, hsplit, List.cons_ne_nil _ _, fun rest hrest => ?_⟩
    obtain ⟨hnoWord, hnoDot⟩ := EndsType.append hstop hrest
    refine tokens_word_append (List.cons_ne_nil _ _) hchars hnoWord ?_
    rcases not_and_or.1 hnumber with hdigit | hdot
    · exact .inl (by simpa [hword] using hdigit)
    · exact .inr (hnoDot hdot)

/-- The tokens of a type are those of its text alone, and can all stand in a type. -/
theorem exists_tokens_of_isTypeText {cs : List Char} (h : IsTypeText cs) :
    ∃ ts, (∀ t ∈ ts, t.isTypePart = true) ∧
      ∀ rest, EndsType rest → tokens (cs ++ rest) = ts ++ tokens rest := by
  induction hlength : cs.length using Nat.strong_induction_on generalizing cs with
  | _ n ih =>
      cases cs with
      | nil => exact ⟨[], List.forall_mem_nil _, fun _ _ => rfl⟩
      | cons c cs =>
          obtain ⟨hfirst, hlater⟩ := List.forall_mem_cons.1 h
          obtain ⟨before, after, first, hsplit, hshorter, hparts, htokens⟩ :
              ∃ before after first, c :: cs = before ++ after ∧ after.length < (c :: cs).length ∧
                (∀ t ∈ first, Token.isTypePart t = true) ∧ ∀ rest, EndsType rest →
                  tokens (before ++ (after ++ rest)) = first ++ tokens (after ++ rest) := by
            rcases hfirst with hblank | hname | hmark
            · exact ⟨[c], cs, [], rfl, Nat.lt_succ_self _, List.forall_mem_nil _,
                fun rest _ => tokens_blank hblank _⟩
            · obtain ⟨before, after, text, hsplit, hne, htokens⟩ :=
                exists_word_of_isNameChar hname cs
              refine ⟨before, after, [.word text], hsplit, ?_, by simp [Token.isTypePart], htokens⟩
              rw [hsplit, List.length_append]
              exact Nat.lt_add_of_pos_left (List.length_pos_iff.2 hne)
            · refine ⟨[c], cs, [.mark c], rfl, Nat.lt_succ_self _, ?_,
                fun rest _ => tokens_mark (isMark_of_mem_typeMarks hmark) _⟩
              simpa [Token.isTypePart] using hmark
          have hafter : IsTypeText after := fun d hd => h d (hsplit ▸ List.mem_append_right _ hd)
          obtain ⟨others, hothers, hrest⟩ := ih after.length (hlength ▸ hshorter) hafter rfl
          refine ⟨first ++ others, List.forall_mem_append.2 ⟨hparts, hothers⟩, fun rest hends => ?_⟩
          rw [hsplit, List.append_assoc, htokens rest hends, hrest rest hends, List.append_assoc]

theorem tokens_of_isTypeText {cs : List Char} (h : IsTypeText cs) :
    (∀ t ∈ tokens cs, t.isTypePart = true) ∧
      ∀ {rest}, EndsType rest → tokens (cs ++ rest) = tokens cs ++ tokens rest := by
  obtain ⟨ts, hparts, htokens⟩ := exists_tokens_of_isTypeText h
  have hself := htokens [] endsType_nil
  rw [List.append_nil, tokens_nil, List.append_nil] at hself
  rw [hself]
  exact ⟨hparts, fun hrest => htokens _ hrest⟩

/-! ### Names -/

/-- A name of identifiers with dots between them. -/
def IsPath (name : String) : Prop :=
  ∀ segment ∈ segments '.' name, IsIdentifier segment

instance (name : String) : Decidable (IsPath name) :=
  inferInstanceAs (Decidable (∀ segment ∈ segments '.' name, IsIdentifier segment))

/-- The tokens of a name. -/
def pathTokens : List String → List Token
  | [] => []
  | [segment] => [.word segment]
  | segment :: next :: rest => .word segment :: .mark '.' :: pathTokens (next :: rest)

theorem segments_ne_nil (name : String) : segments '.' name ≠ [] := fun hnil =>
  segmentsOf_ne_nil name.toList (List.map_eq_nil_iff.1 hnil)

theorem pathTokens_ne_nil {names : List String} (h : names ≠ []) : pathTokens names ≠ [] := by
  cases names with
  | nil => exact absurd rfl h
  | cons name rest => cases rest <;> exact List.cons_ne_nil _ _

theorem tokens_identifier {name : String} (h : IsIdentifier name) {rest : List Char}
    (hrest : StartsNoWord rest) : tokens (name.toList ++ rest) = .word name :: tokens rest := by
  have hne : name.toList ≠ [] := fun hnil => h.ne_empty (String.toList_eq_nil_iff.1 hnil)
  rw [tokens_word_append hne h.nameChars hrest (.inl h.not_digit), String.ofList_toList]

theorem tokens_intercalate {names : List String} (h : ∀ name ∈ names, IsIdentifier name)
    {rest : List Char} (hrest : StartsNoWord rest) :
    tokens (['.'].intercalate (names.map String.toList) ++ rest) =
      pathTokens names ++ tokens rest := by
  induction names with
  | nil => rfl
  | cons name names ih =>
      obtain ⟨hname, hnames⟩ := List.forall_mem_cons.1 h
      cases names with
      | nil => simpa [pathTokens] using tokens_identifier hname hrest
      | cons next names =>
          have htext : ['.'].intercalate ((name :: next :: names).map String.toList) ++ rest =
              name.toList ++
                '.' :: (['.'].intercalate ((next :: names).map String.toList) ++ rest) := by
            simp [List.intercalate_cons_cons]
          rw [htext, tokens_identifier hname (startsNoWord_cons (by decide) _),
            tokens_mark (by decide), ih hnames]
          rfl

theorem tokens_path {name : String} (h : IsPath name) {rest : List Char}
    (hrest : StartsNoWord rest) :
    tokens (name.toList ++ rest) = pathTokens (segments '.' name) ++ tokens rest := by
  rw [← tokens_intercalate h hrest, intercalate_segments]

theorem isTypeText_path {name : String} (h : IsPath name) : IsTypeText name.toList := by
  intro c hc
  by_cases hdot : c = '.'
  · exact .inr (.inr (hdot ▸ List.mem_cons_self))
  · obtain ⟨segment, hsegment, hmem⟩ := exists_mem_segments hdot hc
    exact .inr (.inl ((h segment hsegment).nameChars c hmem))

/-! ### Numbers -/

/-- The digits of a number. -/
def digits (value : Int) : String :=
  toString value.natAbs

/-- The sign in front of a number. -/
def signTokens (value : Int) : List Token :=
  if value < 0 then [.mark '-'] else []

theorem toList_toString_int (value : Int) :
    (toString value).toList = (if value < 0 then ['-'] else []) ++ (digits value).toList := by
  rw [Int.toString_eq_repr, Int.repr_eq_if, digits, Nat.toString_eq_repr]
  by_cases h : value < 0
  · have habs : (-value).toNat = value.natAbs := by omega
    rw [if_neg (Int.not_le.2 h), if_pos h, String.toList_append, habs]
    rfl
  · have habs : value.toNat = value.natAbs := by omega
    rw [if_pos (Int.not_lt.1 h), if_neg h, habs]
    rfl

theorem toList_digits (value : Int) :
    (digits value).toList ≠ [] ∧ ∀ c ∈ (digits value).toList, c.isDigit = true := by
  rw [digits, Nat.toString_eq_repr, Nat.repr_eq_ofList_toDigits, String.toList_ofList]
  exact ⟨Nat.toDigits_ne_nil, fun _ => Nat.isDigit_of_mem_toDigits (by decide) (by decide)⟩

/-- The tokens of a number, with what its last one takes along. -/
theorem tokens_int (value : Int) {after rest : List Char} {word : String}
    (h : tokens ((digits value).toList ++ after) = .word word :: tokens rest) :
    tokens ((toString value).toList ++ after) = signTokens value ++ .word word :: tokens rest := by
  rw [toList_toString_int, signTokens, List.append_assoc]
  split
  · exact (tokens_mark (by decide) _).trans (congrArg (.mark '-' :: ·) h)
  · exact h

/-! ### Types with given names -/

/-- A type whose classes have names of identifiers, and whose variables have identifiers as
names. -/
structure IsNamed (naming : String → String) (type : TypeExpr) : Prop where
  classes : ∀ name ∈ type.classNames, IsPath (naming name)
  typeVariables : ∀ name ∈ type.variableNames, IsIdentifier name

/-- The tokens of a type. -/
def typeTokens (naming : String → String) (type : TypeExpr) : List Token :=
  tokens (type.textWith naming).toList

section Types

variable {naming : String → String}

instance (cs : List Char) : Decidable (IsTypeText cs) :=
  List.decidableBAll (fun c => isBlank c = true ∨ isNameChar c = true ∨ c ∈ typeMarks) cs

theorem isTypeText_append {cs ds : List Char} :
    IsTypeText (cs ++ ds) ↔ IsTypeText cs ∧ IsTypeText ds :=
  List.forall_mem_append

theorem isTypeText_identifier {name : String} (h : IsIdentifier name) : IsTypeText name.toList :=
  fun c hc => .inr (.inl (h.nameChars c hc))

/-- The text of a type between the names. -/
theorem isTypeText_fixed :
    ∀ text ∈ ["[]", "<", ">", ", ", "?", " extends ", " super "], IsTypeText text.toList := by
  decide

mutual

theorem isTypeText_textWith (type : TypeExpr)
    (hclasses : ∀ name ∈ type.classNames, IsPath (naming name))
    (hvariables : ∀ name ∈ type.variableNames, IsIdentifier name) :
    IsTypeText (type.textWith naming).toList := by
  match type with
  | .void =>
      have h : IsIdentifier "void" := by decide
      exact isTypeText_identifier h
  | .primitive type => exact isTypeText_identifier (isIdentifier_keyword type)
  | .variable name => exact isTypeText_identifier (hvariables name List.mem_cons_self)
  | .array component =>
      rw [TypeExpr.textWith, String.toList_append, isTypeText_append]
      exact ⟨isTypeText_textWith component hclasses hvariables, isTypeText_fixed _ (by decide)⟩
  | .named name [] => exact isTypeText_path (hclasses name List.mem_cons_self)
  | .named name (arg :: rest) =>
      obtain ⟨hname, hargs⟩ := List.forall_mem_cons.1 hclasses
      simp only [TypeExpr.textWith, String.toList_append, isTypeText_append]
      exact ⟨⟨⟨isTypeText_path hname, isTypeText_fixed _ (by decide)⟩,
        isTypeText_listTextWith (arg :: rest) hargs hvariables⟩, isTypeText_fixed _ (by decide)⟩
  | .wildcard upper lower =>
      obtain ⟨hupper, hlower⟩ := List.forall_mem_append.1 hclasses
      obtain ⟨hupperVars, hlowerVars⟩ := List.forall_mem_append.1 hvariables
      simp only [TypeExpr.textWith, String.toList_append, isTypeText_append]
      have hextends := isTypeText_fixed " extends " (by decide)
      have hsuper := isTypeText_fixed " super " (by decide)
      exact ⟨⟨isTypeText_fixed _ (by decide),
        isTypeText_boundTextWith hextends upper hupper hupperVars⟩,
        isTypeText_boundTextWith hsuper lower hlower hlowerVars⟩

theorem isTypeText_listTextWith (types : List TypeExpr)
    (hclasses : ∀ name ∈ TypeExpr.listClassNames types, IsPath (naming name))
    (hvariables : ∀ name ∈ TypeExpr.variableNamesOfAll types, IsIdentifier name) :
    IsTypeText (TypeExpr.listTextWith naming types).toList := by
  match types with
  | [] => exact List.forall_mem_nil _
  | [type] =>
      exact isTypeText_textWith type (List.forall_mem_append.1 hclasses).1
        (List.forall_mem_append.1 hvariables).1
  | type :: next :: rest =>
      obtain ⟨hfirst, hlater⟩ := List.forall_mem_append.1 hclasses
      obtain ⟨hfirstVars, hlaterVars⟩ := List.forall_mem_append.1 hvariables
      simp only [TypeExpr.listTextWith, String.toList_append, isTypeText_append]
      exact ⟨⟨isTypeText_textWith type hfirst hfirstVars, isTypeText_fixed _ (by decide)⟩,
        isTypeText_listTextWith (next :: rest) hlater hlaterVars⟩

theorem isTypeText_boundTextWith {keyword : String} (hkeyword : IsTypeText keyword.toList)
    (bound : Option TypeExpr)
    (hclasses : ∀ name ∈ TypeExpr.optionClassNames bound, IsPath (naming name))
    (hvariables : ∀ name ∈ TypeExpr.variableNamesOfOption bound, IsIdentifier name) :
    IsTypeText (TypeExpr.boundTextWith naming keyword bound).toList := by
  match bound with
  | none => exact List.forall_mem_nil _
  | some type =>
      simp only [TypeExpr.boundTextWith, String.toList_append, isTypeText_append]
      exact ⟨hkeyword, isTypeText_textWith type hclasses hvariables⟩

end

variable {type : TypeExpr} {rest : List Char}

theorem tokens_type (h : IsNamed naming type) (hrest : EndsType rest) :
    tokens ((type.textWith naming).toList ++ rest) = typeTokens naming type ++ tokens rest :=
  (tokens_of_isTypeText (isTypeText_textWith type h.classes h.typeVariables)).2 hrest

theorem isTypePart_of_mem_typeTokens (h : IsNamed naming type) :
    ∀ t ∈ typeTokens naming type, t.isTypePart = true :=
  (tokens_of_isTypeText (isTypeText_textWith type h.classes h.typeVariables)).1

theorem typeTokens_ne_nil (h : IsNamed naming type) : typeTokens naming type ≠ [] := by
  have hword {name : String} (hname : IsIdentifier name) : tokens name.toList ≠ [] := by
    have htokens := tokens_identifier hname startsNoWord_nil
    rw [List.append_nil] at htokens
    exact htokens ▸ List.cons_ne_nil _ _
  have hmark {c : Char} (hc : IsMark c) (before : List Token) (after : List Char) :
      before ++ tokens (c :: after) ≠ [] :=
    List.append_ne_nil_of_right_ne_nil _ (tokens_mark hc after ▸ List.cons_ne_nil _ _)
  unfold typeTokens
  match type with
  | .void =>
      have hname : IsIdentifier "void" := by decide
      exact hword hname
  | .primitive type => exact hword (isIdentifier_keyword type)
  | .variable name => exact hword (h.typeVariables name List.mem_cons_self)
  | .named name [] =>
      have htokens := tokens_path (h.classes name List.mem_cons_self) startsNoWord_nil
      rw [List.append_nil] at htokens
      rw [TypeExpr.textWith, htokens]
      exact List.append_ne_nil_of_left_ne_nil (pathTokens_ne_nil (segments_ne_nil _)) _
  | .named name (arg :: args) =>
      have htext : ((TypeExpr.named name (arg :: args)).textWith naming).toList =
          (naming name).toList ++
            '<' :: ((TypeExpr.listTextWith naming (arg :: args)).toList ++ ['>']) := by
        simp [TypeExpr.textWith]
      rw [htext, tokens_path (h.classes name List.mem_cons_self) (startsNoWord_cons (by decide) _)]
      exact hmark (by decide) _ _
  | .array component =>
      have htext : (component.array.textWith naming).toList =
          (component.textWith naming).toList ++ ['[', ']'] := by
        simp [TypeExpr.textWith]
      have hcomponent : IsNamed naming component := ⟨h.classes, h.typeVariables⟩
      rw [htext, tokens_type hcomponent (endsType_cons (by decide) (by decide) _)]
      exact hmark (by decide) _ _
  | .wildcard upper lower =>
      have htext : ((TypeExpr.wildcard upper lower).textWith naming).toList =
          '?' :: ((TypeExpr.boundTextWith naming " extends " upper).toList ++
            (TypeExpr.boundTextWith naming " super " lower).toList) := by
        simp [TypeExpr.textWith]
      rw [htext]
      exact hmark (by decide) [] _

end Types

/-! ### Expressions -/

mutual

/-- An expression of names, literals, selections, calls, casts and comparisons, with identifiers as
names. -/
inductive Expr.Plain (naming : String → String) : Expr → Prop
  | this : Expr.Plain naming .this
  | var {name : String} (hname : IsIdentifier name) : Expr.Plain naming (.variable name)
  | null : Expr.Plain naming .null
  | int (value : Int) : Expr.Plain naming (.int value)
  | string (value : String) : Expr.Plain naming (.string value)
  | field {target : Expr} {name : String} (htarget : Expr.Plain naming target)
      (hname : IsIdentifier name) : Expr.Plain naming (.field target name)
  | staticField {owner : ClassRef} {name : String} (howner : IsPath (naming owner.name))
      (hname : IsIdentifier name) : Expr.Plain naming (.staticField owner name)
  | call {target : Expr} {method : String} {args : List Expr} (htarget : Expr.Plain naming target)
      (hmethod : IsIdentifier method) (hargs : Expr.AllPlain naming args) :
      Expr.Plain naming (.call target method args)
  | localCall {method : String} {args : List Expr} (hmethod : IsIdentifier method)
      (hargs : Expr.AllPlain naming args) : Expr.Plain naming (.localCall method args)
  | staticCall {owner : ClassRef} {method : String} {args : List Expr}
      (howner : IsPath (naming owner.name)) (hmethod : IsIdentifier method)
      (hargs : Expr.AllPlain naming args) : Expr.Plain naming (.staticCall owner method args)
  | cast {type : TypeExpr} {expr : Expr} (htype : IsNamed naming type)
      (hexpr : Expr.Plain naming expr) : Expr.Plain naming (.cast type expr)
  | compare (op : Comparison) {left right : Expr} (hleft : Expr.Plain naming left)
      (hright : Expr.Plain naming right) : Expr.Plain naming (.compare op left right)

/-- Expressions of this kind. -/
inductive Expr.AllPlain (naming : String → String) : List Expr → Prop
  | nil : Expr.AllPlain naming []
  | cons {expr : Expr} {rest : List Expr} (hexpr : Expr.Plain naming expr)
      (hrest : Expr.AllPlain naming rest) : Expr.AllPlain naming (expr :: rest)

end

/-- The tokens of a receiver with the dot behind it, if `ts` are those of the receiver alone. -/
def Expr.selecting (target : Expr) (ts : List Token) : List Token :=
  match target with
  | .int value => signTokens value ++ [.word (digits value ++ ".")]
  | _ => if target.isOpen then .mark '(' :: (ts ++ [.mark ')', .mark '.']) else ts ++ [.mark '.']

mutual

/-- The tokens of a printed expression. -/
def Expr.printed (naming : String → String) : Expr → List Token
  | .this => [.word "this"]
  | .variable name => [.word name]
  | .null => [.word "null"]
  | .int value => signTokens value ++ [.word (digits value)]
  | .string value => [.string value]
  | .field target name => target.selecting (target.printed naming) ++ [.word name]
  | .staticField owner name =>
    pathTokens (segments '.' (naming owner.name)) ++ [.mark '.', .word name]
  | .call target method args =>
    target.selecting (target.printed naming) ++
      .word method :: .mark '(' :: (Expr.argsPrinted naming args ++ [.mark ')'])
  | .localCall method args =>
    .word method :: .mark '(' :: (Expr.argsPrinted naming args ++ [.mark ')'])
  | .staticCall owner method args =>
    pathTokens (segments '.' (naming owner.name)) ++
      .mark '.' :: .word method :: .mark '(' :: (Expr.argsPrinted naming args ++ [.mark ')'])
  | .cast type expr => .mark '(' :: (typeTokens naming type ++ .mark ')' :: expr.printed naming)
  | .compare op left right => left.printed naming ++ .comparison op :: right.printed naming
  | expr => tokens (expr.text naming).toList

/-- The tokens of printed arguments. -/
def Expr.argsPrinted (naming : String → String) : List Expr → List Token
  | [] => []
  | [arg] => arg.printed naming
  | arg :: next :: rest => arg.printed naming ++ .mark ',' :: Expr.argsPrinted naming (next :: rest)

end

/-- Whether an expression ends in a number, or may. -/
def Expr.mayEndInNumber : Expr → Bool
  | .int _ | .cast _ _ | .compare _ _ _ => true
  | _ => false

/-- What follows a printed expression: nothing that its last token would take along. -/
structure Expr.EndsBefore (expr : Expr) (rest : List Char) : Prop where
  startsNoWord : StartsNoWord rest
  ne_dot : expr.mayEndInNumber = true → rest.head? ≠ some '.'

/-- What stands in front of a dot: a number, something in parentheses, or something that can stand
there as it is. -/
theorem Expr.receiver_cases (target : Expr) :
    (∃ value, target = .int value) ∨
      (target.isOpen = true ∧
        ∀ ts, target.selecting ts = .mark '(' :: (ts ++ [.mark ')', .mark '.'])) ∨
      (target.isOpen = false ∧ target.mayEndInNumber = false ∧
        ∀ ts, target.selecting ts = ts ++ [.mark '.']) := by
  cases target <;> simp [isOpen, selecting, mayEndInNumber]

theorem EndsType.endsBefore {rest : List Char} (h : EndsType rest) (expr : Expr) :
    expr.EndsBefore rest :=
  ⟨h.startsNoWord, fun _ => h.ne_dot⟩

section Expressions

variable {naming : String → String}

/-- The tokens of a receiver, if those of the expression itself are known. -/
theorem Expr.tokens_receiver {target : Expr}
    (htarget : ∀ {rest}, target.EndsBefore rest →
      tokens ((target.text naming).toList ++ rest) = target.printed naming ++ tokens rest)
    (rest : List Char) :
    tokens ((parenthesize target.isOpen (target.text naming)).toList ++ '.' :: rest) =
      target.selecting (target.printed naming) ++ tokens rest := by
  obtain ⟨value, rfl⟩ | ⟨hopen, hselecting⟩ | ⟨hopen, hend, hselecting⟩ := target.receiver_cases
  · obtain ⟨hne, hdigits⟩ := toList_digits value
    have hnumber : tokens ((digits value).toList ++ '.' :: rest) =
        .word (digits value ++ ".") :: tokens rest := by
      have hword : String.ofList ((digits value).toList ++ ['.']) = digits value ++ "." :=
        String.toList_inj.1 (by simp)
      rw [tokens_number_dot hne (fun c hc => isNameChar_of_isDigit (hdigits c hc))
        (fun c hc => hdigits c (List.mem_of_mem_head? hc)), hword]
    exact (tokens_int value hnumber).trans (by simp [selecting])
  · have htext : (parenthesize true (target.text naming)).toList ++ '.' :: rest =
        '(' :: ((target.text naming).toList ++ ')' :: '.' :: rest) := by
      simp [parenthesize]
    have hclose : EndsType (')' :: '.' :: rest) := endsType_cons (by decide) (by decide) _
    rw [hopen, htext, tokens_mark (by decide), htarget (hclose.endsBefore target),
      tokens_mark (by decide), tokens_mark (by decide), hselecting]
    simp
  · have hdot : target.EndsBefore ('.' :: rest) :=
      ⟨startsNoWord_cons (by decide) _, fun hmay => absurd (hend.symm.trans hmay) nofun⟩
    rw [hopen, parenthesize, if_neg Bool.false_ne_true, htarget hdot, tokens_mark (by decide),
      hselecting, List.append_assoc]
    rfl

/-- The tokens of a call without what it is called on. -/
theorem tokens_invocation {method : String} (hmethod : IsIdentifier method) {args : List Expr}
    (hargs : ∀ rest, tokens ((Expr.argsText naming args).toList ++ ')' :: rest) =
      Expr.argsPrinted naming args ++ .mark ')' :: tokens rest) (rest : List Char) :
    tokens (method.toList ++ '(' :: ((Expr.argsText naming args).toList ++ ')' :: rest)) =
      .word method :: .mark '(' :: (Expr.argsPrinted naming args ++ [.mark ')']) ++
        tokens rest := by
  rw [tokens_identifier hmethod (startsNoWord_cons (by decide) _), tokens_mark (by decide), hargs]
  simp

mutual

/-- The tokens of a printed expression are those of its parts. -/
theorem Expr.Plain.tokens_text {expr : Expr} (h : expr.Plain naming) {rest : List Char}
    (hrest : expr.EndsBefore rest) :
    tokens ((expr.text naming).toList ++ rest) = expr.printed naming ++ tokens rest := by
  cases h with
  | this =>
      have hname : IsIdentifier "this" := by decide
      exact tokens_identifier hname hrest.startsNoWord
  | var hname => exact tokens_identifier hname hrest.startsNoWord
  | null =>
      have hname : IsIdentifier "null" := by decide
      exact tokens_identifier hname hrest.startsNoWord
  | int value =>
      obtain ⟨hne, hdigits⟩ := toList_digits value
      have hnumber : tokens ((digits value).toList ++ rest) =
          .word (digits value) :: tokens rest := by
        rw [tokens_word_append hne (fun c hc => isNameChar_of_isDigit (hdigits c hc))
          hrest.startsNoWord (.inr (hrest.ne_dot rfl)), String.ofList_toList]
      exact (tokens_int value hnumber).trans (by simp [Expr.printed])
  | string value => exact tokens_quote value rest
  | @field target name htarget hname =>
      have htext : ((Expr.field target name).text naming).toList ++ rest =
          (parenthesize target.isOpen (target.text naming)).toList ++
            '.' :: (name.toList ++ rest) := by
        simp [Expr.text]
      rw [htext, Expr.tokens_receiver htarget.tokens_text,
        tokens_identifier hname hrest.startsNoWord]
      simp [Expr.printed]
  | @staticField owner name howner hname =>
      have htext : ((Expr.staticField owner name).text naming).toList ++ rest =
          (naming owner.name).toList ++ '.' :: (name.toList ++ rest) := by
        simp [Expr.text]
      rw [htext, tokens_path howner (startsNoWord_cons (by decide) _), tokens_mark (by decide),
        tokens_identifier hname hrest.startsNoWord]
      simp [Expr.printed]
  | @call target method args htarget hmethod hargs =>
      have htext : ((Expr.call target method args).text naming).toList ++ rest =
          (parenthesize target.isOpen (target.text naming)).toList ++
            '.' :: (method.toList ++
              '(' :: ((Expr.argsText naming args).toList ++ ')' :: rest)) := by
        simp [Expr.text]
      rw [htext, Expr.tokens_receiver htarget.tokens_text,
        tokens_invocation hmethod hargs.tokens_argsText]
      simp [Expr.printed]
  | @localCall method args hmethod hargs =>
      have htext : ((Expr.localCall method args).text naming).toList ++ rest =
          method.toList ++ '(' :: ((Expr.argsText naming args).toList ++ ')' :: rest) := by
        simp [Expr.text]
      rw [htext, tokens_invocation hmethod hargs.tokens_argsText, Expr.printed]
  | @staticCall owner method args howner hmethod hargs =>
      have htext : ((Expr.staticCall owner method args).text naming).toList ++ rest =
          (naming owner.name).toList ++ '.' :: (method.toList ++
            '(' :: ((Expr.argsText naming args).toList ++ ')' :: rest)) := by
        simp [Expr.text]
      rw [htext, tokens_path howner (startsNoWord_cons (by decide) _), tokens_mark (by decide),
        tokens_invocation hmethod hargs.tokens_argsText]
      simp [Expr.printed]
  | @cast type expr htype hexpr =>
      have htext : ((Expr.cast type expr).text naming).toList ++ rest =
          '(' :: ((type.textWith naming).toList ++
            ')' :: ' ' :: ((expr.text naming).toList ++ rest)) := by
        simp [Expr.text]
      have hend : expr.EndsBefore rest := ⟨hrest.startsNoWord, fun _ => hrest.ne_dot rfl⟩
      rw [htext, tokens_mark (by decide),
        tokens_type htype (endsType_cons (by decide) (by decide) _), tokens_mark (by decide),
        tokens_blank (by decide), hexpr.tokens_text hend]
      simp [Expr.printed]
  | @compare op left right hleft hright =>
      have htext : ((Expr.compare op left right).text naming).toList ++ rest =
          (left.text naming).toList ++
            ' ' :: (op.text.toList ++ ' ' :: ((right.text naming).toList ++ rest)) := by
        simp [Expr.text]
      have hblank : EndsType (' ' :: (op.text.toList ++
          ' ' :: ((right.text naming).toList ++ rest))) :=
        endsType_cons (by decide) (by decide) _
      have hend : right.EndsBefore rest := ⟨hrest.startsNoWord, fun _ => hrest.ne_dot rfl⟩
      rw [htext, hleft.tokens_text (hblank.endsBefore left), tokens_blank (by decide),
        tokens_comparison, tokens_blank (by decide), hright.tokens_text hend]
      simp [Expr.printed]

theorem Expr.AllPlain.tokens_argsText {args : List Expr} (h : Expr.AllPlain naming args)
    (rest : List Char) :
    tokens ((Expr.argsText naming args).toList ++ ')' :: rest) =
      Expr.argsPrinted naming args ++ .mark ')' :: tokens rest := by
  cases h with
  | nil => exact tokens_mark (by decide) rest
  | @cons expr others hexpr hothers =>
      cases others with
      | nil =>
          have hend : EndsType (')' :: rest) := endsType_cons (by decide) (by decide) _
          rw [Expr.argsText, hexpr.tokens_text (hend.endsBefore expr), tokens_mark (by decide),
            Expr.argsPrinted]
      | cons next others =>
          have htext : (Expr.argsText naming (expr :: next :: others)).toList ++ ')' :: rest =
              (expr.text naming).toList ++ ',' :: ' ' ::
                ((Expr.argsText naming (next :: others)).toList ++ ')' :: rest) := by
            simp [Expr.argsText]
          have hend : EndsType (',' :: ' ' ::
              ((Expr.argsText naming (next :: others)).toList ++ ')' :: rest)) :=
            endsType_cons (by decide) (by decide) _
          rw [htext, hexpr.tokens_text (hend.endsBefore expr), tokens_mark (by decide),
            tokens_blank (by decide), hothers.tokens_argsText]
          simp [Expr.argsPrinted]

end

end Expressions

end FluentHttp.Java
