import FluentHttp.Proofs.TypeExpr.Lexing
import FluentHttp.TypeExpr.Printer

/-!
# FluentHttp.Proofs.TypeExpr.Canonical

The types that have a written form: `Canonical` says which they are without mention of a reader.
`printed` are the tokens of the written form, with one equation for each constructor. The equations
hold of all types but variables, whose name has to be an identifier for it to be one token.
-/

namespace FluentHttp.TypeExpr

open FluentHttp.Text

/-! ### Names -/

/-- A name of one part: a run of name characters that does not start with an ASCII digit. -/
structure IsIdentifier (name : String) : Prop where
  ne_empty : name ≠ ""
  nameChars : ∀ c ∈ name.toList, isNameChar c = true
  not_digit : ∀ c ∈ name.toList.head?, c.isDigit = false

theorem isIdentifier_iff_checks {name : String} :
    IsIdentifier name ↔
      name ≠ "" ∧ name.toList.all isNameChar = true ∧
        name.toList.head?.all (!·.isDigit) = true := by
  constructor
  · rintro ⟨hne, hname, hdigit⟩
    exact ⟨hne, List.all_eq_true.2 hname, by simpa [Option.all_eq_true] using hdigit⟩
  · rintro ⟨hne, hname, hdigit⟩
    exact ⟨hne, List.all_eq_true.1 hname, by simpa [Option.all_eq_true] using hdigit⟩

instance (name : String) : Decidable (IsIdentifier name) :=
  decidable_of_iff _ isIdentifier_iff_checks.symm

/-- `void` and the primitive types have a keyword each. -/
def IsKeyword (name : String) : Prop :=
  name = "void" ∨ ∃ primitive : Primitive, name = primitive.keyword

/-- A qualified name: two identifiers or more, joined by dots. -/
def IsClassName (name : String) : Prop :=
  ∃ segments : List String,
    2 ≤ segments.length ∧ (∀ s ∈ segments, IsIdentifier s) ∧ name = ".".intercalate segments

theorem isIdentifier_keyword (primitive : Primitive) : IsIdentifier primitive.keyword := by
  cases primitive <;> decide

theorem IsKeyword.isIdentifier {name : String} (h : IsKeyword name) : IsIdentifier name := by
  rcases h with rfl | ⟨primitive, rfl⟩
  · decide
  · exact isIdentifier_keyword primitive

/-! ### Canonical types -/

/-- A wildcard with a bound. Brackets behind it would belong to the bound. -/
def IsBounded : TypeExpr → Prop
  | .wildcard upper lower => upper.isSome ∨ lower.isSome
  | _ => False

/-- A type with a written form. Which library type a class is, is a function of its name
(`ClassRef.library?`), so there is nothing to demand of it. -/
inductive Canonical : TypeExpr → Prop
  | void : Canonical .void
  | primitive (type : Primitive) : Canonical (.primitive type)
  | variable {name : String} (hname : IsIdentifier name) (hkeyword : ¬IsKeyword name) :
      Canonical (.variable name)
  | named {name : String} {args : List TypeExpr} (hname : IsClassName name)
      (hargs : ∀ arg ∈ args, Canonical arg) : Canonical (.named name args)
  | array {component : TypeExpr} (h : Canonical component) (hbound : ¬component.IsBounded) :
      Canonical (.array component)
  | wildcard : Canonical (.wildcard none none)
  | upperBound {bound : TypeExpr} (h : Canonical bound) : Canonical (.wildcard (some bound) none)
  | lowerBound {bound : TypeExpr} (h : Canonical bound) : Canonical (.wildcard none (some bound))

/-- A reference that is made for a library type is one to this library type, by its name too. -/
theorem library?_ofLibrary (type : LibraryType) (args : List TypeExpr) :
    (ofLibrary type args).library? = some type := by
  have hname : LibraryType.ofName? type.qualifiedName = some type := by
    cases type <;> decide
  exact hname

/-- A type names a library type exactly if it is made for it, with some arguments. -/
theorem isLibrary_iff {type : TypeExpr} {library : LibraryType} :
    type.isLibrary library = true ↔ ∃ args, type = .ofLibrary library args := by
  rw [isLibrary, beq_iff_eq]
  constructor
  · intro h
    obtain ⟨ref, hclass, hlibrary⟩ := Option.bind_eq_some_iff.1 h
    have hname : library.qualifiedName = ref.name := by simpa using List.find?_some hlibrary
    cases type with
    | named name args =>
        obtain rfl := Option.some.inj hclass
        exact ⟨args, by rw [ofLibrary, ClassRef.ofLibrary, ClassRef.toType, hname]⟩
    | _ => cases hclass
  · rintro ⟨args, rfl⟩
    exact library?_ofLibrary library args

theorem isArrayOf_iff {type : TypeExpr} {library : LibraryType} :
    type.isArrayOf library = true ↔ ∃ args, type = .array (.ofLibrary library args) := by
  cases type with
  | array component => simp only [isArrayOf, isLibrary_iff, array.injEq]
  | _ => simp [isArrayOf]

/-! ### Tokens of names -/

theorem IsIdentifier.tokens_eq {name : String} (h : IsIdentifier name) :
    tokens name.toList = [.word name] := by
  have hne : name.toList ≠ [] := fun hnil => h.ne_empty (String.toList_eq_nil_iff.1 hnil)
  rw [tokens_word hne h.nameChars, String.ofList_toList]

/-- The tokens of a name of several segments. -/
def nameTokens : List String → List Token
  | [] => []
  | first :: rest => .word first :: rest.flatMap fun segment => [.mark '.', .word segment]

theorem nameTokens_concat {segments : List String} (hne : segments ≠ []) (last : String) :
    nameTokens (segments ++ [last]) = nameTokens segments ++ [.mark '.', .word last] := by
  obtain ⟨first, rest, rfl⟩ := List.exists_cons_of_ne_nil hne
  simp [nameTokens]

theorem tokens_intercalate {segments : List String} (h : ∀ s ∈ segments, IsIdentifier s) :
    tokens (".".intercalate segments).toList = nameTokens segments := by
  induction segments with
  | nil => simp [nameTokens]
  | cons first rest ih =>
      have hfirst := h first (by simp)
      cases rest with
      | nil => simpa [nameTokens] using hfirst.tokens_eq
      | cons second rest =>
          have htext : (".".intercalate (first :: second :: rest)).toList =
              first.toList ++ '.' :: (".".intercalate (second :: rest)).toList := by
            simp [String.intercalate_cons_cons]
          rw [htext, tokens_append_mark (by decide) (by decide), hfirst.tokens_eq,
            ih fun s hs => h s (by simp [hs])]
          simp [nameTokens]

/-! ### Tokens of types -/

/-- The tokens of a type as it is written. -/
def printed (type : TypeExpr) : List Token :=
  tokens type.text.toList

/-- The tokens of types that stand in front of another one in an argument list. -/
def printedBefore (types : List TypeExpr) : List Token :=
  types.flatMap fun type => type.printed ++ [.mark ',']

theorem printedBefore_concat (types : List TypeExpr) (type : TypeExpr) :
    printedBefore (types ++ [type]) = printedBefore types ++ type.printed ++ [.mark ','] := by
  simp [printedBefore]

@[simp] theorem printed_void : printed .void = [.word "void"] :=
  IsIdentifier.tokens_eq (IsKeyword.isIdentifier (.inl rfl))

@[simp] theorem printed_primitive (type : Primitive) :
    printed (.primitive type) = [.word type.keyword] :=
  (isIdentifier_keyword type).tokens_eq

theorem printed_variable {name : String} (h : IsIdentifier name) :
    printed (.variable name) = [.word name] := by
  simpa [printed, text, textWith] using h.tokens_eq

@[simp] theorem printed_raw (name : String) : printed (.named name []) = tokens name.toList := by
  simp [printed, text, textWith]

@[simp] theorem printed_array (component : TypeExpr) :
    printed (.array component) = component.printed ++ [.mark '[', .mark ']'] := by
  have htext : (array component).text.toList = component.text.toList ++ '[' :: ']' :: [] := by
    simp [text, textWith]
  rw [printed, htext, tokens_append_mark (by decide) (by decide),
    tokens_mark (by decide) (by decide), tokens_nil]
  rfl

/-- An argument list ends with an argument that no comma follows. -/
theorem tokens_listText_concat (before : List TypeExpr) (last : TypeExpr) :
    tokens (listTextWith id (before ++ [last])).toList = printedBefore before ++ last.printed := by
  induction before with
  | nil => simp [listTextWith, printedBefore, printed, text]
  | cons first rest ih =>
      -- another argument follows, and with it a comma
      obtain ⟨second, others, hrest⟩ : ∃ second others, rest ++ [last] = second :: others :=
        List.exists_cons_of_ne_nil (by simp)
      have htext : (listTextWith id (first :: second :: others)).toList =
          first.text.toList ++ ',' :: ' ' :: (listTextWith id (second :: others)).toList := by
        simp [listTextWith, text]
      rw [List.cons_append, hrest, htext, tokens_append_mark (by decide) (by decide),
        tokens_blank (by decide), ← hrest, ih]
      simp [printedBefore, printed]

theorem printed_named_concat (name : String) (before : List TypeExpr) (last : TypeExpr) :
    printed (.named name (before ++ [last])) =
      tokens name.toList ++ .mark '<' :: printedBefore before ++ last.printed ++ [.mark '>'] := by
  -- the list is not empty, so the angle brackets are written
  obtain ⟨first, rest, hargs⟩ : ∃ first rest, before ++ [last] = first :: rest :=
    List.exists_cons_of_ne_nil (by simp)
  have htext : (named name (before ++ [last])).text.toList =
      name.toList ++ '<' :: ((listTextWith id (before ++ [last])).toList ++ '>' :: []) := by
    simp [hargs, text, textWith]
  rw [printed, htext, tokens_append_mark (by decide) (by decide),
    tokens_append_mark (by decide) (by decide), tokens_listText_concat, tokens_nil]
  simp

@[simp] theorem printed_wildcard : printed (.wildcard none none) = [.mark '?'] := by
  have htext : (wildcard none none).text.toList = ['?'] := by
    simp [text, textWith, boundTextWith]
  rw [printed, htext, tokens_mark (by decide) (by decide), tokens_nil]

theorem tokens_bound {keyword : String} (h : IsIdentifier keyword) (bound : TypeExpr) :
    tokens ('?' :: ' ' :: (keyword.toList ++ ' ' :: bound.text.toList)) =
      .mark '?' :: .word keyword :: bound.printed := by
  rw [tokens_mark (by decide) (by decide), tokens_blank (by decide),
    tokens_append_blank (by decide), h.tokens_eq]
  rfl

@[simp] theorem printed_upperBound (bound : TypeExpr) :
    printed (.wildcard (some bound) none) = .mark '?' :: .word "extends" :: bound.printed := by
  have htext : (wildcard (some bound) none).text.toList =
      '?' :: ' ' :: ("extends".toList ++ ' ' :: bound.text.toList) := by
    simp [text, textWith, boundTextWith]
  rw [printed, htext, tokens_bound (by decide)]

@[simp] theorem printed_lowerBound (bound : TypeExpr) :
    printed (.wildcard none (some bound)) = .mark '?' :: .word "super" :: bound.printed := by
  have htext : (wildcard none (some bound)).text.toList =
      '?' :: ' ' :: ("super".toList ++ ' ' :: bound.text.toList) := by
    simp [text, textWith, boundTextWith]
  rw [printed, htext, tokens_bound (by decide)]

end FluentHttp.TypeExpr
