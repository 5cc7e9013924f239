import FluentHttp.Proofs.TypeExpr.Canonical
import FluentHttp.TypeExpr.Parser

/-!
# FluentHttp.Proofs.TypeExpr.Reading

The reader of type expressions against their written form.

A state of the reader stands for the tokens read so far (`State.printed`). One step appends its
token to them and keeps the state well-formed (`State.read_sound`), so whatever is accepted is the
written form of a canonical type. In the other direction the written form of a canonical type is
read in any context, up to a state that treats the next token as a whole type would
(`Canonical.isRead`).
-/

namespace FluentHttp

/-! ### Keywords and names -/

theorem Primitive.ofKeyword?_eq_some_iff {word : String} {primitive : Primitive} :
    Primitive.ofKeyword? word = some primitive ↔ word = primitive.keyword := by
  constructor
  · intro h
    have hword := List.find?_some h
    simpa using (beq_iff_eq.1 hword).symm
  · rintro rfl
    cases primitive <;> decide

namespace TypeExpr

/-- The segments of a name: at least one, each an identifier. -/
structure IsPath (segments : List String) : Prop where
  ne_nil : segments ≠ []
  identifiers : ∀ s ∈ segments, IsIdentifier s

theorem isIdentifier_iff {word : String} (h : (Token.word word).IsLexical) :
    isIdentifier word = true ↔ IsIdentifier word := by
  obtain ⟨hne, hname⟩ := h
  obtain ⟨c, cs, hcs⟩ : ∃ c cs, word.toList = c :: cs :=
    List.exists_cons_of_ne_nil fun hnil => hne (String.toList_eq_nil_iff.1 hnil)
  have hdigit : isIdentifier word = !c.isDigit := by rw [isIdentifier, hcs]
  constructor
  · intro hid
    refine ⟨hne, hname, ?_⟩
    simpa [hcs, hdigit] using hid
  · intro hid
    have := hid.not_digit c (by simp [hcs])
    simp [hdigit, this]

theorem IsIdentifier.isLexical {word : String} (h : IsIdentifier word) :
    (Token.word word).IsLexical :=
  ⟨h.ne_empty, h.nameChars⟩

theorem keyword?_singleton_eq_none_iff {word : String} :
    keyword? [word] = none ↔ ¬IsKeyword word := by
  rw [keyword?]
  by_cases hvoid : word = "void"
  · simp [hvoid, IsKeyword]
  · rw [if_neg hvoid, Option.map_eq_none_iff, Option.eq_none_iff_forall_ne_some]
    simp [IsKeyword, hvoid, Primitive.ofKeyword?_eq_some_iff]

/-- A name alone is a canonical type, written as its segments. -/
theorem canonical_ofName {segments : List String} (h : IsPath segments) :
    (ofName segments).Canonical ∧ (ofName segments).printed = nameTokens segments ∧
      ¬(ofName segments).IsBounded := by
  match segments, h with
  | [], h => exact absurd rfl h.ne_nil
  | [word], h =>
      -- one segment is a keyword or a variable
      have hword := h.identifiers word (by simp)
      cases hkeyword : keyword? [word] with
      | none =>
          have hvariable : ofName [word] = .variable word := by simp [ofName, hkeyword]
          rw [hvariable]
          exact ⟨.variable hword (keyword?_singleton_eq_none_iff.1 hkeyword),
            printed_variable hword, id⟩
      | some type =>
          have htype : ofName [word] = type := by simp [ofName, hkeyword]
          rw [htype]
          rw [keyword?] at hkeyword
          split at hkeyword
          · next hvoid =>
              obtain rfl : TypeExpr.void = type := by simpa using hkeyword
              exact ⟨.void, by simp [hvoid, nameTokens], id⟩
          · obtain ⟨primitive, hprimitive, rfl⟩ := Option.map_eq_some_iff.1 hkeyword
            have := Primitive.ofKeyword?_eq_some_iff.1 hprimitive
            exact ⟨.primitive primitive, by simp [this, nameTokens], id⟩
  | first :: second :: rest, h =>
      -- several segments are a class, whatever they are
      have hnamed : ofName (first :: second :: rest) =
          .named (joinName (first :: second :: rest)) [] := rfl
      rw [hnamed]
      refine ⟨.named ⟨_, by simp, h.identifiers, rfl⟩ (by simp), ?_, id⟩
      rw [printed_raw, joinName, tokens_intercalate h.identifiers]

/-! ### What the reader has read -/

/-- The tokens in front of the current type. -/
def Context.printed : Context → List Token
  | top => []
  | argument name before outer =>
    outer.printed ++ nameTokens name ++ .mark '<' :: printedBefore before
  | upperBound outer => outer.printed ++ [.mark '?', .word "extends"]
  | lowerBound outer => outer.printed ++ [.mark '?', .word "super"]

/-- The tokens up to where a state is. -/
def State.printed : State → List Token
  | start context => context.printed
  | question context => context.printed ++ [.mark '?']
  | name segments context => context.printed ++ nameTokens segments
  | dot segments context => context.printed ++ nameTokens segments ++ [.mark '.']
  | type t context => context.printed ++ t.printed
  | bracket component context => context.printed ++ component.printed ++ [.mark '[']

/-- Names are names, arguments are canonical, and no keyword was given arguments. -/
def Context.WF : Context → Prop
  | top => True
  | argument name before outer =>
    IsPath name ∧ keyword? name = none ∧ (∀ t ∈ before, Canonical t) ∧ outer.WF
  | upperBound outer => outer.WF
  | lowerBound outer => outer.WF

/-- Whatever was read is well-formed. A type that brackets may still follow is not a bounded
wildcard, as brackets behind the bound are read before the wildcard is complete. -/
def State.WF : State → Prop
  | start context => context.WF
  | question context => context.WF
  | name segments context => IsPath segments ∧ context.WF
  | dot segments context => IsPath segments ∧ context.WF
  | type t context => t.Canonical ∧ ¬t.IsBounded ∧ context.WF
  | bracket component context => component.Canonical ∧ ¬component.IsBounded ∧ context.WF

theorem IsPath.concat {segments : List String} (h : IsPath segments) {last : String}
    (hlast : IsIdentifier last) : IsPath (segments ++ [last]) := by
  refine ⟨by simp, fun s hs => ?_⟩
  rcases List.mem_append.1 hs with hs | hs
  · exact h.identifiers s hs
  · rwa [List.mem_singleton.1 hs]

/-- A name with arguments is a class. -/
theorem IsPath.isClassName {segments : List String} (h : IsPath segments)
    (hlength : segments.length ≠ 1) : IsClassName (joinName segments) := by
  have := List.length_pos_iff.2 h.ne_nil
  exact ⟨segments, by omega, h.identifiers, rfl⟩

/-! ### One step, soundly -/

theorem Context.read_sound {context : Context} {t : TypeExpr} {token : Token} {s : State}
    (h : context.read t token = .ok s) (hcontext : context.WF) (ht : t.Canonical) :
    s.WF ∧ s.printed = context.printed ++ t.printed ++ [token] := by
  induction context generalizing t with
  | top => simp [read] at h
  | upperBound outer ih =>
      obtain ⟨hs, hprinted⟩ := ih h hcontext (.upperBound ht)
      exact ⟨hs, by simp [hprinted, printed]⟩
  | lowerBound outer ih =>
      obtain ⟨hs, hprinted⟩ := ih h hcontext (.lowerBound ht)
      exact ⟨hs, by simp [hprinted, printed]⟩
  | argument name before outer =>
      obtain ⟨hname, hkeyword, hbefore, houter⟩ := hcontext
      have hargs : ∀ arg ∈ before ++ [t], Canonical arg := by
        simpa [or_imp, forall_and] using ⟨hbefore, ht⟩
      rw [read] at h
      split at h
      · next hcomma =>
          cases h
          refine ⟨⟨hname, hkeyword, hargs, houter⟩, ?_⟩
          simp [State.printed, printed, printedBefore_concat, hcomma]
      · split at h
        · next hclose =>
            -- only a name of several segments is given arguments
            split at h
            · cases h
            · next hlength =>
                cases h
                refine ⟨⟨.named (hname.isClassName hlength) hargs, id, houter⟩, ?_⟩
                rw [State.printed, printed_named_concat, joinName,
                  tokens_intercalate hname.identifiers]
                simp [printed, hclose]
        · cases h

theorem State.readAfter_sound {t : TypeExpr} {context : Context} {token : Token} {s : State}
    (h : readAfter t context token = .ok s) (hcontext : context.WF) (ht : t.Canonical)
    (hbound : ¬t.IsBounded) : s.WF ∧ s.printed = context.printed ++ t.printed ++ [token] := by
  rw [readAfter] at h
  split at h
  · next hbracket =>
      cases h
      exact ⟨⟨ht, hbound, hcontext⟩, by simp [printed, hbracket]⟩
  · exact Context.read_sound h hcontext ht

/-- A step keeps a state well-formed and appends the token to what has been read. -/
theorem State.read_sound {s s' : State} {token : Token} (h : s.read token = .ok s') (hs : s.WF)
    (htoken : token.IsLexical) : s'.WF ∧ s'.printed = s.printed ++ [token] := by
  cases s with
  | start context =>
      cases token with
      | mark c =>
          rw [read] at h
          split at h
          · next hc => cases h; exact ⟨hs, by simp [printed, hc]⟩
          · cases h
      | word word =>
          rw [read] at h
          split at h
          · next hid =>
              cases h
              have hword := (isIdentifier_iff htoken).1 hid
              exact ⟨⟨⟨by simp, by simpa using hword⟩, hs⟩, by simp [printed, nameTokens]⟩
          · cases h
  | question context =>
      rw [read] at h
      split at h
      · next hword => cases h; exact ⟨hs, by simp [printed, Context.printed, hword]⟩
      · split at h
        · next hword => cases h; exact ⟨hs, by simp [printed, Context.printed, hword]⟩
        · -- no bound follows, so the wildcard is complete
          simpa [printed] using readAfter_sound h hs .wildcard (by simp [IsBounded])
  | name segments context =>
      obtain ⟨hsegments, hcontext⟩ := hs
      rw [read, readAfterName] at h
      split at h
      · next hdot => cases h; exact ⟨⟨hsegments, hcontext⟩, by simp [printed, hdot]⟩
      · split at h
        · next hopen =>
            obtain ⟨hopen, hkeyword⟩ := hopen
            cases h
            refine ⟨⟨hsegments, by simpa using hkeyword, by simp, hcontext⟩, ?_⟩
            simp [printed, Context.printed, printedBefore, hopen]
        · -- the name does not go on: it is a type
          obtain ⟨hcanonical, hprinted, hbound⟩ := canonical_ofName hsegments
          simpa [printed, hprinted] using readAfter_sound h hcontext hcanonical hbound
  | dot segments context =>
      obtain ⟨hsegments, hcontext⟩ := hs
      cases token with
      | mark c => cases h
      | word word =>
          rw [read] at h
          split at h
          · next hid =>
              cases h
              have hword := (isIdentifier_iff htoken).1 hid
              refine ⟨⟨hsegments.concat hword, hcontext⟩, ?_⟩
              simp [printed, nameTokens_concat hsegments.ne_nil]
          · cases h
  | type t context =>
      obtain ⟨ht, hbound, hcontext⟩ := hs
      exact readAfter_sound h hcontext ht hbound
  | bracket component context =>
      obtain ⟨hcomponent, hbound, hcontext⟩ := hs
      rw [read] at h
      split at h
      · next hclose =>
          cases h
          exact ⟨⟨.array hcomponent hbound, id, hcontext⟩, by simp [printed, hclose]⟩
      · cases h

/-! ### Whole runs, soundly -/

/-- The state after reading tokens. -/
def State.readAll (s : State) (ts : List Token) : Except SyntaxReason State :=
  ts.foldlM State.read s

theorem State.readAll_cons {s next : State} {token : Token} (h : s.read token = .ok next)
    (ts : List Token) : s.readAll (token :: ts) = next.readAll ts := by
  rw [readAll, List.foldlM_cons, h]
  rfl

theorem State.readAll_append {s middle : State} {ts : List Token}
    (h : s.readAll ts = .ok middle) (us : List Token) :
    s.readAll (ts ++ us) = middle.readAll us := by
  rw [readAll, List.foldlM_append, ← readAll, h]
  rfl

theorem mapError_eq_ok_iff {ε ε' α : Type} {f : ε → ε'} {result : Except ε α} {a : α} :
    result.mapError f = .ok a ↔ result = .ok a := by
  cases result with
  | ok b =>
      have hok : (Except.ok b : Except ε α).mapError f = .ok b := rfl
      simp [hok]
  | error e => exact ⟨nofun, nofun⟩

/-- A text is accepted if all its tokens can be read and a type is complete behind them. -/
theorem State.run_eq_ok_iff {length : Nat} {s : State} {ls : List Lexeme} {t : TypeExpr} :
    s.run length ls = .ok t ↔
      ∃ last, s.readAll (ls.map (·.token)) = .ok last ∧ last.finish = .ok t := by
  induction ls generalizing s with
  | nil =>
      rw [run, mapError_eq_ok_iff]
      simp [readAll, pure, Except.pure]
  | cons lexeme rest ih =>
      rw [run, List.map_cons]
      cases hread : s.read lexeme.token with
      | ok next => simp only [readAll_cons hread, ih]
      | error reason => simp [readAll, hread, bind, Except.bind]

theorem State.readAll_sound {s s' : State} {ts : List Token} (h : s.readAll ts = .ok s')
    (hs : s.WF) (hts : ∀ t ∈ ts, t.IsLexical) : s'.WF ∧ s'.printed = s.printed ++ ts := by
  induction ts generalizing s with
  | nil =>
      obtain rfl : s = s' := by simpa [readAll, pure, Except.pure] using h
      exact ⟨hs, by simp⟩
  | cons token rest ih =>
      obtain ⟨htoken, hrest⟩ := List.forall_mem_cons.1 hts
      cases hread : s.read token with
      | error reason => simp [readAll, hread, bind, Except.bind] at h
      | ok next =>
          rw [readAll_cons hread] at h
          obtain ⟨hnext, hprinted⟩ := read_sound hread hs htoken
          obtain ⟨hs', hprinted'⟩ := ih h hnext hrest
          exact ⟨hs', by simp [hprinted', hprinted]⟩

theorem Context.finish_sound {context : Context} {t whole : TypeExpr}
    (h : context.finish t = .ok whole) (ht : t.Canonical) :
    whole.Canonical ∧ whole.printed = context.printed ++ t.printed := by
  induction context generalizing t with
  | top => cases h; exact ⟨ht, by simp [printed]⟩
  | argument name before outer => cases h
  | upperBound outer ih =>
      obtain ⟨hwhole, hprinted⟩ := ih h (.upperBound ht)
      exact ⟨hwhole, by simp [hprinted, printed]⟩
  | lowerBound outer ih =>
      obtain ⟨hwhole, hprinted⟩ := ih h (.lowerBound ht)
      exact ⟨hwhole, by simp [hprinted, printed]⟩

theorem State.finish_sound {s : State} {whole : TypeExpr} (h : s.finish = .ok whole)
    (hs : s.WF) : whole.Canonical ∧ whole.printed = s.printed := by
  cases s with
  | start context => cases h
  | question context => simpa [printed] using Context.finish_sound h .wildcard
  | name segments context =>
      obtain ⟨hcanonical, hprinted, -⟩ := canonical_ofName hs.1
      simpa [printed, hprinted] using Context.finish_sound h hcanonical
  | dot segments context => cases h
  | type t context => exact Context.finish_sound h hs.1
  | bracket component context => cases h

/-! ### Written forms are read

A state behind a whole type need not say so: a name may still go on, and a bound keeps the wildcard
open. `HasRead` is what such a state has in common with one that does say so. -/

/-- The state goes on like one that has read the type `t` in a context, at the tokens that can
follow a whole type. -/
structure State.HasRead (s : State) (t : TypeExpr) (context : Context) : Prop where
  finish : s.finish = context.finish t
  comma : s.read (.mark ',') = context.read t (.mark ',')
  close : s.read (.mark '>') = context.read t (.mark '>')
  bracket : ¬t.IsBounded → s.read (.mark '[') = .ok (.bracket t context)

theorem State.hasRead_type (t : TypeExpr) (context : Context) :
    (State.type t context).HasRead t context :=
  ⟨rfl, rfl, rfl, fun _ => rfl⟩

theorem State.hasRead_question (context : Context) :
    (State.question context).HasRead (.wildcard none none) context :=
  ⟨rfl, rfl, rfl, fun _ => rfl⟩

theorem State.hasRead_name (segments : List String) (context : Context) :
    (State.name segments context).HasRead (ofName segments) context := by
  constructor <;> simp [finish, read, readAfterName, readAfter]

theorem IsIdentifier.isIdentifier {word : String} (h : IsIdentifier word) :
    isIdentifier word = true :=
  (isIdentifier_iff h.isLexical).2 h

theorem State.readAll_nameTokens {segments : List String} (h : IsPath segments)
    (context : Context) :
    (start context).readAll (nameTokens segments) = .ok (.name segments context) := by
  obtain ⟨first, rest, rfl⟩ := List.exists_cons_of_ne_nil h.ne_nil
  have hfirst : (start context).read (.word first) = .ok (.name [first] context) := by
    simp [read, (h.identifiers first (by simp)).isIdentifier]
  rw [nameTokens, readAll_cons hfirst]
  -- the segments behind the first one, after any number of them
  have hrest : ∀ before, (∀ s ∈ rest, IsIdentifier s) →
      (name before context).readAll (rest.flatMap fun s => [.mark '.', .word s]) =
        .ok (.name (before ++ rest) context) := by
    clear h
    induction rest with
    | nil => intro before _; simp [readAll, pure, Except.pure]
    | cons segment rest ih =>
        intro before hidentifiers
        obtain ⟨hsegment, hidentifiers⟩ := List.forall_mem_cons.1 hidentifiers
        have hdot : (name before context).read (.mark '.') = .ok (.dot before context) := by
          simp [read, readAfterName]
        have hword : (dot before context).read (.word segment) =
            .ok (.name (before ++ [segment]) context) := by
          simp [read, hsegment.isIdentifier]
        rw [List.flatMap_cons, List.cons_append, readAll_cons hdot, List.cons_append,
          readAll_cons hword, List.nil_append, ih _ hidentifiers]
        simp
  exact hrest [first] fun s hs => h.identifiers s (by simp [hs])

/-- The written form of a type can be read in any context. -/
def IsRead (t : TypeExpr) : Prop :=
  ∀ context, ∃ s, (State.start context).readAll t.printed = .ok s ∧ s.HasRead t context

/-- A bound is read in a context of its own, which completes the wildcard where the bound is
complete. -/
theorem IsRead.bounded {bound whole : TypeExpr} {keyword : String} {inside : Context → Context}
    (h : bound.IsRead)
    (hprinted : whole.printed = .mark '?' :: .word keyword :: bound.printed)
    (hbounded : whole.IsBounded)
    (hkeyword : ∀ context,
      (State.question context).read (.word keyword) = .ok (.start (inside context)))
    (hfinish : ∀ context, (inside context).finish bound = context.finish whole)
    (hread : ∀ context token, (inside context).read bound token = context.read whole token) :
    whole.IsRead := by
  intro context
  obtain ⟨s, hs, hbound⟩ := h (inside context)
  refine ⟨s, ?_, ?_, ?_, ?_, fun hunbounded => absurd hbounded hunbounded⟩
  · have hmark : (State.start context).read (.mark '?') = .ok (.question context) := rfl
    rw [hprinted, State.readAll_cons hmark, State.readAll_cons (hkeyword context), hs]
  · rw [hbound.finish, hfinish]
  · rw [hbound.comma, hread]
  · rw [hbound.close, hread]

theorem IsRead.upperBound {bound : TypeExpr} (h : bound.IsRead) :
    IsRead (.wildcard (some bound) none) :=
  h.bounded (printed_upperBound bound) (.inl rfl) (fun _ => rfl) (fun _ => rfl) fun _ _ => rfl

theorem IsRead.lowerBound {bound : TypeExpr} (h : bound.IsRead) :
    IsRead (.wildcard none (some bound)) :=
  h.bounded (printed_lowerBound bound) (.inr rfl) (fun _ => rfl) (fun _ => rfl) fun _ _ => rfl

theorem IsRead.array {component : TypeExpr} (h : component.IsRead)
    (hbound : ¬component.IsBounded) : IsRead (.array component) := by
  intro context
  obtain ⟨s, hs, hread⟩ := h context
  refine ⟨.type (.array component) context, ?_, State.hasRead_type _ _⟩
  have hclose : (State.bracket component context).read (.mark ']') =
      .ok (.type (.array component) context) := rfl
  rw [printed_array, State.readAll_append hs, State.readAll_cons (hread.bracket hbound),
    State.readAll_cons hclose]
  rfl

/-- An argument list is read to its end behind any arguments that were read before. -/
theorem readAll_args {segments : List String} (hsegments : 2 ≤ segments.length)
    (args : List TypeExpr) {last : TypeExpr} (hargs : ∀ arg ∈ args, arg.IsRead)
    (hlast : last.IsRead) (before : List TypeExpr) (context : Context) :
    (State.start (.argument segments before context)).readAll
        (printedBefore args ++ last.printed ++ [.mark '>']) =
      .ok (.type (.named (joinName segments) (before ++ args ++ [last])) context) := by
  -- the arguments that a comma follows, one by one
  induction args generalizing before with
  | nil =>
      obtain ⟨s, hs, hread⟩ := hlast (.argument segments before context)
      have hclose : s.read (.mark '>') =
          .ok (.type (.named (joinName segments) (before ++ [last])) context) := by
        rw [hread.close, Context.read, if_neg (by simp), if_pos rfl, if_neg (by omega)]
      rw [printedBefore, List.flatMap_nil, List.nil_append, State.readAll_append hs,
        State.readAll_cons hclose, List.append_nil]
      rfl
  | cons arg rest ih =>
      obtain ⟨harg, hrest⟩ := List.forall_mem_cons.1 hargs
      obtain ⟨s, hs, hread⟩ := harg (.argument segments before context)
      have hcomma : s.read (.mark ',') =
          .ok (.start (.argument segments (before ++ [arg]) context)) := by
        rw [hread.comma, Context.read, if_pos rfl]
      have hsplit : printedBefore (arg :: rest) ++ last.printed ++ [.mark '>'] =
          arg.printed ++ .mark ',' :: (printedBefore rest ++ last.printed ++ [.mark '>']) := by
        simp [printedBefore]
      rw [hsplit, State.readAll_append hs, State.readAll_cons hcomma, ih hrest]
      simp

theorem IsPath.isRead_ofName {segments : List String} (h : IsPath segments) :
    (ofName segments).IsRead := by
  intro context
  refine ⟨_, ?_, State.hasRead_name segments context⟩
  rw [(canonical_ofName h).2.1]
  exact State.readAll_nameTokens h context

theorem IsRead.named {name : String} {args : List TypeExpr} (hname : IsClassName name)
    (hargs : ∀ arg ∈ args, arg.IsRead) : IsRead (.named name args) := by
  obtain ⟨segments, hlength, hsegments, rfl⟩ := hname
  have hpath : IsPath segments := ⟨List.length_pos_iff.1 (by omega), hsegments⟩
  obtain ⟨first, second, rest, rfl⟩ : ∃ first second rest, segments = first :: second :: rest := by
    match segments, hlength with
    | first :: second :: rest, _ => exact ⟨first, second, rest, rfl⟩
  -- without arguments nothing is written in angle brackets
  rcases List.eq_nil_or_concat args with rfl | ⟨before, last, rfl⟩
  · exact hpath.isRead_ofName
  · intro context
    have hopen : (State.name (first :: second :: rest) context).read (.mark '<') =
        .ok (.start (.argument (first :: second :: rest) [] context)) := rfl
    have hbefore : ∀ arg ∈ before, arg.IsRead := fun arg harg => hargs arg (by simp [harg])
    refine ⟨_, ?_, State.hasRead_type _ context⟩
    rw [List.concat_eq_append, printed_named_concat, tokens_intercalate hsegments,
      List.append_assoc, List.append_assoc,
      State.readAll_append (State.readAll_nameTokens hpath context), List.cons_append,
      State.readAll_cons hopen, ← List.append_assoc,
      readAll_args hlength before hbefore (hargs last (by simp)) [] context]
    rfl

/-- A word is read as a name of one segment. -/
theorem isRead_of_ofName_singleton {word : String} {t : TypeExpr} (hword : IsIdentifier word)
    (ht : ofName [word] = t) : t.IsRead := by
  have hpath : IsPath [word] := ⟨by simp, by simpa using hword⟩
  exact ht ▸ hpath.isRead_ofName

theorem Canonical.isRead {t : TypeExpr} (h : t.Canonical) : t.IsRead := by
  induction h with
  | void => exact isRead_of_ofName_singleton (IsKeyword.isIdentifier (.inl rfl)) rfl
  | primitive type =>
      refine isRead_of_ofName_singleton (isIdentifier_keyword type) ?_
      cases type <;> rfl
  | «variable» hname hkeyword =>
      refine isRead_of_ofName_singleton hname ?_
      simp [ofName, keyword?_singleton_eq_none_iff.2 hkeyword]
  | named hname _ ih => exact .named hname ih
  | array _ hbound ih => exact ih.array hbound
  | wildcard =>
      intro context
      exact ⟨_, by rw [printed_wildcard]; rfl, State.hasRead_question context⟩
  | upperBound _ ih => exact ih.upperBound
  | lowerBound _ ih => exact ih.lowerBound

/-! ### Reading a text -/

theorem parse_eq_ok_iff_readAll {input : String} {t : TypeExpr} :
    parse input = .ok t ↔
      ∃ last, (State.start .top).readAll (tokens input.toList) = .ok last ∧
        last.finish = .ok t := by
  rw [tokens, ← @State.run_eq_ok_iff input.utf8ByteSize, parse, mapError_eq_ok_iff]

/-- What is accepted is the written form of a canonical type, up to blanks. -/
theorem parse_sound {input : String} {t : TypeExpr} (h : parse input = .ok t) :
    t.Canonical ∧ t.printed = tokens input.toList := by
  obtain ⟨last, hread, hfinish⟩ := parse_eq_ok_iff_readAll.1 h
  have hlexical := (tokenized_tokens input.toList).isLexical
  obtain ⟨hlast, hprinted⟩ := State.readAll_sound hread trivial hlexical
  obtain ⟨hcanonical, hwhole⟩ := State.finish_sound hfinish hlast
  exact ⟨hcanonical, by rw [hwhole, hprinted]; rfl⟩

/-- The written form of a canonical type is accepted, with any blanks between its tokens. -/
theorem Canonical.parse_eq_ok {input : String} {t : TypeExpr} (h : t.Canonical)
    (htokens : tokens input.toList = t.printed) : parse input = .ok t := by
  obtain ⟨s, hs, hread⟩ := h.isRead .top
  exact parse_eq_ok_iff_readAll.2 ⟨s, by rw [htokens, hs], hread.finish⟩

/-- **The reader undoes the printer.** A text is read as a type exactly if the type is canonical and
the text consists of the tokens of its written form: nothing else is accepted, and where the blanks
are never matters. -/
theorem parse_eq_ok_iff (input : String) (t : TypeExpr) :
    parse input = .ok t ↔
      t.Canonical ∧ ∃ ts, Tokenized input.toList ts ∧ Tokenized t.text.toList ts := by
  constructor
  · intro h
    obtain ⟨hcanonical, hprinted⟩ := parse_sound h
    exact ⟨hcanonical, _, tokenized_tokens _, tokenized_iff.2 hprinted.symm⟩
  · rintro ⟨hcanonical, ts, hinput, htext⟩
    exact hcanonical.parse_eq_ok (hinput.eq_tokens.symm.trans htext.eq_tokens)

example : (parse "java . util.List< ? extends T [ ] >").toOption =
    some (.named "java.util.List" [.wildcard (some (.array (.variable "T"))) none]) := by
  decide +kernel

end TypeExpr

end FluentHttp
