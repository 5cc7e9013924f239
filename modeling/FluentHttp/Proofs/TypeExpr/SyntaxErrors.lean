import FluentHttp.Proofs.TypeExpr.Reading
import Mathlib.Data.List.Basic

/-!
# FluentHttp.Proofs.TypeExpr.SyntaxErrors

Where a malformed type expression is said to be wrong.

The reader takes one token at a time and stops at the first one that it cannot take. A text that
starts with the same tokens is refused as well, whatever follows them
(`not_prefix_of_readAll_eq_error`), so the place where it stops is the place to look at. In the text
this place is the start or the end of a token, or the end of the text (`cutAt_of_lexemes`); it cuts
no token, and no character, in two.
-/

namespace FluentHttp.TypeExpr

/-! ### Places in a text -/

/-- A text is cut at a byte offset into two parts, with the tokens `read` in front of the cut and
the tokens `rest` behind it. No token is cut in two. -/
structure CutAt (text : String) (offset : Nat) (read rest : List Token) : Prop where
  parts : ∃ front back : String, text = front ++ back ∧ front.utf8ByteSize = offset ∧
    Tokenized front.toList read ∧ Tokenized back.toList rest
  whole : Tokenized text.toList (read ++ rest)

theorem utf8ByteSize_ofList (cs : List Char) :
    (String.ofList cs).utf8ByteSize = byteLength cs := by
  induction cs with
  | nil => rfl
  | cons c rest ih =>
      rw [String.ofList_cons, String.utf8ByteSize_append, String.utf8ByteSize_singleton, ih,
        byteLength]

theorem byteLength_append (cs ds : List Char) :
    byteLength (cs ++ ds) = byteLength cs + byteLength ds := by
  rw [← utf8ByteSize_ofList, String.ofList_append, String.utf8ByteSize_append, utf8ByteSize_ofList,
    utf8ByteSize_ofList]

theorem CutAt.ofLists {text : String} {front back : List Char} {read rest : List Token}
    (htext : text.toList = front ++ back) (hfront : Tokenized front read)
    (hback : Tokenized back rest) (hwhole : Tokenized (front ++ back) (read ++ rest)) :
    CutAt text (byteLength front) read rest := by
  have hparts : text = String.ofList front ++ String.ofList back := by
    rw [← String.ofList_append, ← htext, String.ofList_toList]
  refine ⟨⟨_, _, hparts, utf8ByteSize_ofList front, ?_, ?_⟩, htext ▸ hwhole⟩
  · rwa [String.toList_ofList]
  · rwa [String.toList_ofList]

/-- A cut is between two characters, or at an end of the text. -/
theorem CutAt.isValid {text : String} {offset : Nat} {read rest : List Token}
    (h : CutAt text offset read rest) : (String.Pos.Raw.mk offset).IsValid text := by
  obtain ⟨front, back, htext, rfl, -⟩ := h.parts
  exact String.Pos.Raw.isValid_iff_exists_append.2 ⟨front, back, htext, rfl⟩

/-- A text can be cut at its end. -/
theorem cutAt_end {text : String} {ts : List Token} (h : Tokenized text.toList ts) :
    CutAt text text.utf8ByteSize ts [] := by
  have hlength : text.utf8ByteSize = byteLength text.toList := by
    rw [← utf8ByteSize_ofList, String.ofList_toList]
  rw [hlength]
  exact .ofLists (List.append_nil _).symm h .nil (by simpa using h)

/-! ### Places of tokens -/

/-- A lexeme of a text that starts at `offset`: the text before it, its own and the text behind it,
with their tokens. -/
structure SplitAt (offset : Nat) (lexeme : Lexeme) (before after : List Token)
    (front word back : List Char) : Prop where
  start : lexeme.start = offset + byteLength front
  stop : lexeme.stop = offset + byteLength (front ++ word)
  ofFront : Tokenized front before
  ofRest : Tokenized (word ++ back) (lexeme.token :: after)
  throughWord : Tokenized (front ++ word) (before ++ [lexeme.token])
  ofBack : Tokenized back after

/-- The same lexeme of a text that has a part more in front. -/
theorem SplitAt.behind {offset : Nat} {lexeme : Lexeme} {before all after : List Token}
    {part front word back : List Char}
    (h : SplitAt (offset + byteLength part) lexeme before after front word back)
    (hfront : Tokenized (part ++ front) all)
    (hword : Tokenized (part ++ (front ++ word)) (all ++ [lexeme.token])) :
    SplitAt offset lexeme all after (part ++ front) word back where
  start := by rw [h.start, byteLength_append, Nat.add_assoc]
  stop := by rw [h.stop, List.append_assoc, byteLength_append part, Nat.add_assoc]
  ofFront := hfront
  ofRest := h.ofRest
  throughWord := by rwa [List.append_assoc]
  ofBack := h.ofBack

/-- What follows a run of name characters does not go on with one. -/
theorem isNameChar_of_append_eq_dropWhile {rest front back : List Char}
    (h : rest.dropWhile isNameChar = front ++ back) : ∀ c ∈ front.head?, isNameChar c = false := by
  intro c hc
  have hhead : (rest.dropWhile isNameChar).head? = some c := by
    rw [h, List.head?_append, Option.mem_def.1 hc, Option.some_or]
  have := List.head?_dropWhile_not isNameChar rest
  simpa [hhead] using this

/-- A lexeme stands in the text where it says. -/
theorem exists_splitAt {offset : Nat} {cs : List Char} {after : List Lexeme} {lexeme : Lexeme} :
    ∀ before, lexemes offset cs = before ++ lexeme :: after →
      ∃ front word back, cs = front ++ (word ++ back) ∧
        SplitAt offset lexeme (before.map (·.token)) (after.map (·.token)) front word back := by
  have htokens (offset : Nat) (cs : List Char) :
      Tokenized cs ((lexemes offset cs).map (·.token)) :=
    tokenized_iff.2 (map_token_lexemes offset cs)
  fun_induction lexemes offset cs with
  | case1 offset => simp
  | case2 offset c rest hblank ih =>
      intro before h
      obtain ⟨front, word, back, rfl, hsplit⟩ := ih before h
      exact ⟨[c] ++ front, word, back, rfl,
        hsplit.behind (.blank hblank hsplit.ofFront) (.blank hblank hsplit.throughWord)⟩
  | case3 offset c rest hblank hname run stop ih =>
      intro before h
      have hcs : c :: rest = run ++ rest.dropWhile isNameChar := by
        simp [run, List.takeWhile_append_dropWhile]
      have hne : run ≠ [] := by simp [run]
      have hrun : ∀ d ∈ run, isNameChar d = true := by
        intro d hd
        rcases List.mem_cons.1 hd with rfl | hd
        · exact hname
        · exact List.all_eq_true.1 List.all_takeWhile d hd
      rcases List.cons_eq_append_iff.1 h with ⟨rfl, hlexeme⟩ | ⟨before, rfl, hrest⟩
      · -- the run is the lexeme
        obtain ⟨rfl, rfl⟩ := List.cons.inj hlexeme
        have hmaximal : ∀ d ∈ (rest.dropWhile isNameChar).head?, isNameChar d = false :=
          isNameChar_of_append_eq_dropWhile (List.append_nil _).symm
        refine ⟨[], run, _, hcs, rfl, rfl, .nil, ?_, ?_, htokens stop _⟩
        · exact .word hne hrun hmaximal (htokens stop _)
        · have hend : ∀ d ∈ ([] : List Char).head?, isNameChar d = false := by simp
          simpa using Tokenized.word hne hrun hend .nil
      · -- it comes after the run, which nothing in front of it goes on with
        obtain ⟨front, word, back, hdrop, hsplit⟩ := ih before hrest
        rw [← List.append_assoc] at hdrop
        have hword := isNameChar_of_append_eq_dropWhile hdrop
        rw [List.append_assoc] at hdrop
        have hfront := isNameChar_of_append_eq_dropWhile hdrop
        refine ⟨run ++ front, word, back, by rw [hcs, hdrop, List.append_assoc], ?_⟩
        exact hsplit.behind (.word hne hrun hfront hsplit.ofFront)
          (.word hne hrun hword hsplit.throughWord)
  | case4 offset c rest hblank hname stop ih =>
      intro before h
      have hblank : Text.isBlank c = false := by simpa using hblank
      have hname : isNameChar c = false := by simpa using hname
      rcases List.cons_eq_append_iff.1 h with ⟨rfl, hlexeme⟩ | ⟨before, rfl, hrest⟩
      · obtain ⟨rfl, rfl⟩ := List.cons.inj hlexeme
        exact ⟨[], [c], rest, rfl, rfl, rfl, .nil, .mark hblank hname (htokens stop rest),
          .mark hblank hname .nil, htokens stop rest⟩
      · obtain ⟨front, word, back, rfl, hsplit⟩ := ih before hrest
        exact ⟨[c] ++ front, word, back, rfl,
          hsplit.behind (.mark hblank hname hsplit.ofFront)
            (.mark hblank hname hsplit.throughWord)⟩

/-- A text can be cut at the start and at the end of each of its tokens. -/
theorem cutAt_of_lexemes {text : String} {before after : List Lexeme} {lexeme : Lexeme}
    (h : lexemes 0 text.toList = before ++ lexeme :: after) :
    CutAt text lexeme.start (before.map (·.token)) ((lexeme :: after).map (·.token)) ∧
      CutAt text lexeme.stop ((before ++ [lexeme]).map (·.token)) (after.map (·.token)) := by
  obtain ⟨front, word, back, htext, hsplit⟩ := exists_splitAt before h
  have hwhole : Tokenized text.toList ((before ++ lexeme :: after).map (·.token)) := by
    rw [← h]
    exact tokenized_iff.2 (map_token_lexemes 0 _)
  rw [hsplit.start, hsplit.stop, Nat.zero_add, Nat.zero_add]
  constructor
  · exact .ofLists htext hsplit.ofFront hsplit.ofRest (by simpa [htext] using hwhole)
  · rw [← List.append_assoc] at htext
    exact .ofLists htext (by simpa using hsplit.throughWord) hsplit.ofBack
      (by simpa [htext] using hwhole)

/-! ### Where reading stops -/

/-- A reader that has stopped does not go on. -/
theorem State.readAll_append_eq_error {s : State} {ts : List Token} {reason : SyntaxReason}
    (h : s.readAll ts = .error reason) (us : List Token) :
    s.readAll (ts ++ us) = .error reason := by
  rw [readAll, List.foldlM_append, ← readAll, h]
  rfl

/-- A run fails at a token that cannot be read, or at the end of the text. -/
theorem State.run_eq_error {length offset : Nat} {s : State} {ls : List Lexeme}
    {reason : SyntaxReason} (h : s.run length ls = .error (offset, reason)) :
    (∃ before lexeme after, ls = before ++ lexeme :: after ∧ offset = reason.offset lexeme ∧
      s.readAll ((before ++ [lexeme]).map (·.token)) = .error reason) ∨
    (offset = length ∧ ∃ last, s.readAll (ls.map (·.token)) = .ok last ∧
      last.finish = .error reason) := by
  induction ls generalizing s with
  | nil =>
      right
      rw [run] at h
      cases hfinish : s.finish with
      | ok t => rw [hfinish] at h; cases h
      | error r =>
          rw [hfinish] at h
          obtain ⟨rfl, rfl⟩ := Prod.mk.inj (Except.error.inj h)
          exact ⟨rfl, s, rfl, hfinish⟩
  | cons lexeme rest ih =>
      rw [run] at h
      cases hread : s.read lexeme.token with
      | ok next =>
          rw [hread] at h
          have hstep (ls : List Lexeme) :
              s.readAll ((lexeme :: ls).map (·.token)) = next.readAll (ls.map (·.token)) :=
            readAll_cons hread _
          rcases ih h with ⟨before, stopped, after, rfl, hoffset, herror⟩ | ⟨hoffset, last, hlast⟩
          · exact .inl ⟨lexeme :: before, stopped, after, rfl, hoffset, (hstep _).trans herror⟩
          · exact .inr ⟨hoffset, last, (hstep rest).trans hlast.1, hlast.2⟩
      | error r =>
          rw [hread] at h
          obtain ⟨rfl, rfl⟩ := Prod.mk.inj (Except.error.inj h)
          refine .inl ⟨[], lexeme, rest, rfl, rfl, ?_⟩
          simp [readAll, hread, bind, Except.bind]

/-- No accepted text starts with tokens that cannot be read. -/
theorem not_prefix_of_readAll_eq_error {ts : List Token} {reason : SyntaxReason}
    (h : (State.start .top).readAll ts = .error reason) {other : String} {t : TypeExpr}
    (hother : parse other = .ok t) : ¬ts <+: tokens other.toList := by
  rintro ⟨us, hus⟩
  obtain ⟨last, hread, -⟩ := parse_eq_ok_iff_readAll.1 hother
  rw [← hus, State.readAll_append_eq_error h] at hread
  cases hread

/-! ### Errors -/

/-- A text with the tokens `read` in front of a place and the tokens `rest` behind it goes wrong
there, if not before. No accepted text starts with the tokens in front of the place and the next
one or, at the end of the text, consists of the tokens in front of it. -/
def WrongBy (read rest : List Token) : Prop :=
  ∀ other t, parse other = .ok t → ∀ ts, Tokenized other.toList ts →
    (∀ next ∈ rest.head?, ¬(read ++ [next]) <+: ts) ∧ (rest = [] → ts ≠ read)

/-- What holds of all tokens that go on with those that cannot be read. -/
theorem wrongBy_of_readAll_eq_error {read rest : List Token} {reason : SyntaxReason}
    (h : (State.start .top).readAll (read ++ rest.take 1) = .error reason) : WrongBy read rest := by
  intro other t hother ts hts
  obtain rfl := hts.eq_tokens
  have hprefix := not_prefix_of_readAll_eq_error h hother
  cases rest with
  | nil =>
      rw [List.take_nil, List.append_nil] at hprefix
      exact ⟨by simp, fun _ heq => hprefix (heq ▸ List.prefix_rfl)⟩
  | cons next rest => exact ⟨by simpa using hprefix, nofun⟩

/-- At the end of a text, a state with an unfinished type is what is wrong. -/
theorem wrongBy_of_finish_eq_error {read : List Token} {last : State} {reason : SyntaxReason}
    (hread : (State.start .top).readAll read = .ok last) (hfinish : last.finish = .error reason) :
    WrongBy read [] := by
  intro other t hother ts hts
  refine ⟨by simp, fun _ heq => ?_⟩
  obtain ⟨final, hall, hdone⟩ := parse_eq_ok_iff_readAll.1 hother
  rw [← hts.eq_tokens, heq, hread] at hall
  obtain rfl := Except.ok.inj hall
  rw [hfinish] at hdone
  cases hdone

theorem exists_run_eq_error {input : String} {error : SyntaxError}
    (h : parse input = .error error) :
    error.input = input ∧
      (State.start .top).run input.utf8ByteSize (lexemes 0 input.toList) =
        .error (error.offset, error.reason) := by
  rw [parse] at h
  cases hrun : (State.start .top).run input.utf8ByteSize (lexemes 0 input.toList) with
  | ok t => rw [hrun] at h; cases h
  | error stop =>
      rw [hrun] at h
      obtain rfl := Except.error.inj h
      exact ⟨rfl, rfl⟩

/-- **Errors point at what is wrong.** An error holds the whole text, and its offset is a place
between two characters of it, or an end. The place cuts no token in two, and what is wrong is not
behind the next token: no accepted text starts with the tokens up to and including this one or, at
the end of the text, consists of the same tokens. -/
theorem parse_eq_error {input : String} {error : SyntaxError} (h : parse input = .error error) :
    error.input = input ∧ (String.Pos.Raw.mk error.offset).IsValid input ∧
      ∃ read rest, CutAt input error.offset read rest ∧ WrongBy read rest := by
  obtain ⟨hinput, hrun⟩ := exists_run_eq_error h
  suffices hplace : ∃ read rest, CutAt input error.offset read rest ∧ WrongBy read rest by
    obtain ⟨read, rest, hcut, hwrong⟩ := hplace
    exact ⟨hinput, hcut.isValid, read, rest, hcut, hwrong⟩
  rcases State.run_eq_error hrun with
    ⟨before, lexeme, after, hlexemes, hoffset, hread⟩ | ⟨hoffset, last, hread, hfinish⟩
  · obtain ⟨hstart, hstop⟩ := cutAt_of_lexemes hlexemes
    rw [hoffset, SyntaxReason.offset]
    split
    · -- misplaced arguments are known when they close, so the token in front is the wrong one
      exact ⟨_, _, hstop, wrongBy_of_readAll_eq_error (State.readAll_append_eq_error hread _)⟩
    · refine ⟨_, _, hstart, @wrongBy_of_readAll_eq_error _ _ error.reason ?_⟩
      simpa using hread
  · rw [hoffset]
    exact ⟨_, [], cutAt_end (tokenized_tokens _), wrongBy_of_finish_eq_error hread hfinish⟩

theorem parse_eq_error_missingComma :
    let input := "größe.Liste<T T>"
    let error : SyntaxError := { input, offset := 16, reason := .expectedCommaOrClose }
    parse input = .error error ∧ (String.Pos.Raw.mk 16).IsValid input ∧
      ∃ read rest, CutAt input 16 read rest ∧ WrongBy read rest := by
  intro input error
  have herror : parse input = .error error := by decide +kernel
  exact ⟨herror, (parse_eq_error herror).2⟩

end FluentHttp.TypeExpr
