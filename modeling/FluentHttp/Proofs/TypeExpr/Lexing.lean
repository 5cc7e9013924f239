import FluentHttp.TypeExpr.Token

/-!
# FluentHttp.Proofs.TypeExpr.Lexing

What the tokens of a text are, without the order in which a reader finds them: `Tokenized` splits a
text into maximal runs of name characters, single other characters and blanks, and `tokens` computes
the only split there is (`tokenized_iff`).

The rest are the equations by which the tokens of a text made of pieces come from the tokens of the
pieces. Two pieces keep apart where the second one does not start with a name character
(`tokens_append`).
-/

namespace FluentHttp

/-! ### No blank is part of a name

Both classes are tables of ranges, so that they have nothing in common is read off the tables. -/

namespace Text

/-- No range of one set meets a range of the other. -/
def CodeRanges.apart (as bs : CodeRanges) : Bool :=
  as.all fun a => bs.all fun b => a.2 < b.1 || b.2 < a.1

theorem CodeRanges.exists_mem_of_covers {ranges : CodeRanges} {code : Nat}
    (h : ranges.covers code = true) : ∃ r ∈ ranges, r.1 ≤ code ∧ code ≤ r.2 := by
  induction ranges with
  | nil => simp [covers] at h
  | cons r rest ih =>
      simp only [covers, Bool.and_eq_true, Bool.or_eq_true, decide_eq_true_eq] at h
      obtain ⟨hfirst, hlast | hrest⟩ := h
      · exact ⟨r, by simp, hfirst, hlast⟩
      · obtain ⟨r', hr', hin⟩ := ih hrest
        exact ⟨r', List.mem_cons_of_mem _ hr', hin⟩

/-- Sets whose ranges are apart have no character in common. -/
theorem CodeRanges.contains_eq_false_of_apart {as bs : CodeRanges} {c : Char}
    (happart : as.apart bs = true) (h : as.contains c = true) : bs.contains c = false := by
  rw [Bool.eq_false_iff]
  intro hb
  obtain ⟨a, ha, ha₁, ha₂⟩ := exists_mem_of_covers h
  obtain ⟨b, hb, hb₁, hb₂⟩ := exists_mem_of_covers hb
  have hab := List.all_eq_true.1 (List.all_eq_true.1 happart a ha) b hb
  simp only [Bool.or_eq_true, decide_eq_true_eq] at hab
  omega

theorem isAlphanumeric_of_isBlank {c : Char} (h : isBlank c = true) : isAlphanumeric c = false := by
  have happart : blankRanges.apart alphanumericRanges = true := by decide +kernel
  exact CodeRanges.contains_eq_false_of_apart happart h

end Text

namespace TypeExpr

open FluentHttp.Text

theorem isNameChar_of_isBlank {c : Char} (h : isBlank c = true) : isNameChar c = false := by
  have hc₁ : c ≠ '_' := by rintro rfl; exact absurd h (by decide)
  have hc₂ : c ≠ '$' := by rintro rfl; exact absurd h (by decide)
  simp [isNameChar, isAlphanumeric_of_isBlank h, hc₁, hc₂]

theorem isBlank_of_isNameChar {c : Char} (h : isNameChar c = true) : isBlank c = false := by
  rw [Bool.eq_false_iff]
  intro hb
  simp [isNameChar_of_isBlank hb] at h

/-! ### Tokens character by character -/

/-- The tokens of a text do not depend on where the text starts. -/
theorem map_token_lexemes (offset : Nat) (cs : List Char) :
    (lexemes offset cs).map (·.token) = tokens cs := by
  suffices h : ∀ other, (lexemes offset cs).map (·.token) = (lexemes other cs).map (·.token) from
    h 0
  fun_induction lexemes offset cs with
  | case1 offset => intro other; rw [lexemes]
  | case2 offset c rest hblank ih => intro other; rw [lexemes, if_pos hblank]; exact ih _
  | case3 offset c rest hblank hname word stop ih =>
      intro other
      rw [lexemes, if_neg hblank, if_pos hname]
      simp only [List.map_cons, List.cons.injEq]
      exact ⟨rfl, ih _⟩
  | case4 offset c rest hblank hname stop ih =>
      intro other
      rw [lexemes, if_neg hblank, if_neg hname]
      simp only [List.map_cons, List.cons.injEq, true_and]
      exact ih _

@[simp] theorem tokens_nil : tokens [] = [] := by
  simp [tokens, lexemes]

theorem tokens_blank {c : Char} (h : isBlank c = true) (cs : List Char) :
    tokens (c :: cs) = tokens cs := by
  rw [tokens, lexemes, if_pos h, map_token_lexemes]

theorem tokens_mark {c : Char} (hblank : isBlank c = false) (hname : isNameChar c = false)
    (cs : List Char) : tokens (c :: cs) = .mark c :: tokens cs := by
  rw [tokens, lexemes, if_neg (by simp [hblank]), if_neg (by simp [hname])]
  simp only [List.map_cons, map_token_lexemes]

theorem tokens_name {c : Char} (hname : isNameChar c = true) (cs : List Char) :
    tokens (c :: cs) =
      .word (String.ofList (c :: cs.takeWhile isNameChar)) :: tokens (cs.dropWhile isNameChar) := by
  rw [tokens, lexemes, if_neg (by simp [isBlank_of_isNameChar hname]), if_pos hname]
  simp only [List.map_cons, map_token_lexemes]

/-- A run of name characters is one token, if no name character follows it. -/
theorem tokens_word_append {word rest : List Char} (hne : word ≠ [])
    (hword : ∀ c ∈ word, isNameChar c = true)
    (hrest : ∀ c ∈ rest.head?, isNameChar c = false) :
    tokens (word ++ rest) = .word (String.ofList word) :: tokens rest := by
  obtain ⟨c, word, rfl⟩ := List.exists_cons_of_ne_nil hne
  -- the run ends where `rest` starts
  have hstop : rest.takeWhile isNameChar = [] ∧ rest.dropWhile isNameChar = rest := by
    cases rest with
    | nil => simp
    | cons d rest => simp [hrest d (by simp)]
  have htail : ∀ c ∈ word, isNameChar c = true := fun d hd => hword d (by simp [hd])
  rw [List.cons_append, tokens_name (hword c (by simp)), List.takeWhile_append_of_pos htail,
    List.dropWhile_append_of_pos htail, hstop.1, hstop.2, List.append_nil]

theorem tokens_word {word : List Char} (hne : word ≠ [])
    (hword : ∀ c ∈ word, isNameChar c = true) : tokens word = [.word (String.ofList word)] := by
  have h : tokens (word ++ []) = .word (String.ofList word) :: tokens [] :=
    tokens_word_append hne hword (by simp)
  simpa using h

/-! ### The split of a text -/

/-- `Tokenized cs ts`: the text `cs` consists of the tokens `ts` with any number of blanks between
them. A run of name characters is never cut in two. -/
inductive Tokenized : List Char → List Token → Prop
  | nil : Tokenized [] []
  | blank {c : Char} {cs : List Char} {ts : List Token} (hblank : isBlank c = true)
      (h : Tokenized cs ts) : Tokenized (c :: cs) ts
  | word {word cs : List Char} {ts : List Token} (hne : word ≠ [])
      (hword : ∀ c ∈ word, isNameChar c = true) (hmaximal : ∀ c ∈ cs.head?, isNameChar c = false)
      (h : Tokenized cs ts) : Tokenized (word ++ cs) (.word (String.ofList word) :: ts)
  | mark {c : Char} {cs : List Char} {ts : List Token} (hblank : isBlank c = false)
      (hname : isNameChar c = false) (h : Tokenized cs ts) : Tokenized (c :: cs) (.mark c :: ts)

theorem Tokenized.eq_tokens {cs : List Char} {ts : List Token} (h : Tokenized cs ts) :
    ts = tokens cs := by
  induction h with
  | nil => rw [tokens_nil]
  | blank hblank _ ih => rw [tokens_blank hblank, ih]
  | word hne hword hmaximal _ ih => rw [tokens_word_append hne hword hmaximal, ih]
  | mark hblank hname _ ih => rw [tokens_mark hblank hname, ih]

theorem tokenized_tokens (cs : List Char) : Tokenized cs (tokens cs) := by
  suffices ∀ offset, Tokenized cs ((lexemes offset cs).map (·.token)) from this 0
  intro offset
  fun_induction lexemes offset cs with
  | case1 offset => exact .nil
  | case2 offset c rest hblank ih => exact .blank hblank ih
  | case3 offset c rest hblank hname word stop ih =>
      -- the word is the run at the start, and what it ends at is no name character
      have hsplit : c :: rest = word ++ rest.dropWhile isNameChar := by
        simp [word, List.takeWhile_append_dropWhile]
      rw [hsplit, List.map_cons]
      refine .word (by simp [word]) ?_ ?_ ih
      · intro d hd
        rcases List.mem_cons.1 hd with rfl | hd
        · exact hname
        · exact List.all_eq_true.1 List.all_takeWhile d hd
      · intro d hd
        have := List.head?_dropWhile_not isNameChar rest
        rw [Option.mem_def.1 hd] at this
        simpa using this
  | case4 offset c rest hblank hname stop ih =>
      exact .mark (by simpa using hblank) (by simpa using hname) ih

/-- Every text has one split into tokens. -/
theorem tokenized_iff {cs : List Char} {ts : List Token} : Tokenized cs ts ↔ ts = tokens cs :=
  ⟨Tokenized.eq_tokens, fun h => h ▸ tokenized_tokens cs⟩

/-- What a token of some text consists of. -/
def Token.IsLexical : Token → Prop
  | .word name => name ≠ "" ∧ ∀ c ∈ name.toList, isNameChar c = true
  | .mark c => isBlank c = false ∧ isNameChar c = false

theorem Tokenized.isLexical {cs : List Char} {ts : List Token} (h : Tokenized cs ts) :
    ∀ t ∈ ts, t.IsLexical := by
  induction h with
  | nil => simp
  | blank _ _ ih => exact ih
  | word hne hword _ _ ih =>
      refine List.forall_mem_cons.2 ⟨⟨?_, ?_⟩, ih⟩
      · simpa [String.ofList_eq_empty_iff] using hne
      · simpa [String.toList_ofList] using hword
  | mark hblank hname _ ih => exact List.forall_mem_cons.2 ⟨⟨hblank, hname⟩, ih⟩

/-! ### Tokens of texts made of pieces -/

/-- A text that does not start with a name character keeps apart from the text before it. -/
theorem tokens_append {cs ds : List Char} (h : ∀ c ∈ ds.head?, isNameChar c = false) :
    tokens (cs ++ ds) = tokens cs ++ tokens ds := by
  generalize hts : tokens cs = ts
  have hcs : Tokenized cs ts := tokenized_iff.2 hts.symm
  clear hts
  induction hcs with
  | nil => rfl
  | blank hblank _ ih => rw [List.cons_append, tokens_blank hblank, ih]
  | @word word cs ts hne hword hmaximal _ ih =>
      -- what follows the run is still no name character, be it in `cs` or in `ds`
      have hnext : ∀ c ∈ (cs ++ ds).head?, isNameChar c = false := by
        cases cs with
        | nil => exact h
        | cons d cs => simpa using hmaximal
      rw [List.append_assoc, tokens_word_append hne hword hnext, ih, List.cons_append]
  | mark hblank hname _ ih => rw [List.cons_append, tokens_mark hblank hname, ih, List.cons_append]

theorem tokens_append_mark {c : Char} (hblank : isBlank c = false) (hname : isNameChar c = false)
    (cs ds : List Char) : tokens (cs ++ c :: ds) = tokens cs ++ .mark c :: tokens ds := by
  rw [tokens_append (by simpa using hname), tokens_mark hblank hname]

theorem tokens_append_blank {c : Char} (h : isBlank c = true) (cs ds : List Char) :
    tokens (cs ++ c :: ds) = tokens cs ++ tokens ds := by
  rw [tokens_append (by simpa using isNameChar_of_isBlank h), tokens_blank h]

end TypeExpr

end FluentHttp
