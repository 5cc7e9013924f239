import FluentHttp.Proofs.Api.TokenConstructors
import FluentHttp.Proofs.Contract
import FluentHttp.Proofs.Declaration.Supertypes

/-!
# FluentHttp.Proofs.Contract.Acceptance

Which declarations the contracts accept, and with which violation they reject the others.

What a class or a field has to be as a member of a category is told by `TypeDecl.Meets` and
`FieldDecl.Meets`: by modifiers, by constructors, and by chains of supertypes in place of a search.
Which rules it breaks is told by `TypeDecl.Breaks` and `FieldDecl.Breaks`, and of several broken
rules the one of least `Violation.precedence` is reported (`Contract.check_iff`).
-/

namespace FluentHttp

/-! ### What rules are about -/

/-- A chain of supertypes leads from a class to a marker. -/
def TypeDecl.ReachesMarker (round : Round) (decl : TypeDecl) (marker : LibraryType) : Prop :=
  ∃ first rest, decl.Extends first.toType ∧ MarkerChain round.types marker (first :: rest)

/-- A chain of supertypes leads to a marker, beginning with a type itself. -/
def TypeExpr.ReachesMarker (round : Round) (type : TypeExpr) (marker : LibraryType) : Prop :=
  ∃ first rest, first.toType = type ∧ MarkerChain round.types marker (first :: rest)

/-- A constructor is the first one without parameters. -/
def TypeDecl.IsFirstNoArg (decl : TypeDecl) (ctor : ConstructorDecl) : Prop :=
  ctor.params = [] ∧
    ∃ before after, decl.constructors = before ++ ctor :: after ∧
      ∀ other ∈ before, other.params ≠ []

/-- A constructor takes `count` type tokens and nothing else, or it takes an array of them. -/
def ConstructorDecl.IsForTokens (ctor : ConstructorDecl) (count : Nat) : Prop :=
  (ctor.params.length = count ∧
      ∀ param ∈ ctor.params, ∃ args, param.type = .ofLibrary .reflectType args) ∨
    ∃ param args, ctor.params = [param] ∧ param.type = .array (.ofLibrary .reflectType args)

/-- The first constructor without parameters is neither public nor private. -/
def TypeDecl.HasRestrictedNoArg (decl : TypeDecl) : Prop :=
  ∃ ctor, decl.IsFirstNoArg ctor ∧
    ctor.modifiers.isPublic = false ∧ ctor.modifiers.isPrivate = false

/-- A constructor that is not private takes the tokens of the type parameters. -/
def TypeDecl.HasTokenConstructor (decl : TypeDecl) : Prop :=
  ∃ ctor ∈ decl.constructors,
    ctor.modifiers.isPrivate = false ∧ ctor.IsForTokens decl.typeParams.length

theorem TypeDecl.noArgConstructor?_eq_some_iff {decl : TypeDecl} {ctor : ConstructorDecl} :
    decl.noArgConstructor? = some ctor ↔ decl.IsFirstNoArg ctor := by
  simp [TypeDecl.noArgConstructor?, TypeDecl.IsFirstNoArg, List.find?_eq_some_iff_append]

theorem TypeDecl.noArgConstructor?_isSome_iff {decl : TypeDecl} :
    decl.noArgConstructor?.isSome = true ↔ ∃ ctor ∈ decl.constructors, ctor.params = [] := by
  simp [TypeDecl.noArgConstructor?, List.find?_isSome]

theorem Modifiers.isRestricted_iff {modifiers : Modifiers} :
    modifiers.isRestricted = true ↔ modifiers.isPublic = false ∧ modifiers.isPrivate = false := by
  simp [isRestricted]

theorem TypeDecl.noArgConstructor?_any_isRestricted_iff {decl : TypeDecl} :
    decl.noArgConstructor?.any (·.modifiers.isRestricted) = true ↔ decl.HasRestrictedNoArg := by
  simp only [HasRestrictedNoArg, Option.any_eq_true, noArgConstructor?_eq_some_iff,
    Modifiers.isRestricted_iff]

theorem ConstructorDecl.takesTypeTokens_iff_isForTokens {ctor : ConstructorDecl} {count : Nat} :
    ctor.takesTypeTokens count = true ↔ ctor.IsForTokens count := by
  rw [Api.takesTypeTokens_iff, or_comm]
  simp only [ConstructorDecl.IsForTokens, Api.isTokenArray, Api.isSingleToken,
    TypeExpr.isLibrary_iff, TypeExpr.isArrayOf_iff, exists_and_left]

theorem Contract.hasTokenConstructor_iff {decl : TypeDecl} :
    hasTokenConstructor decl = true ↔ decl.HasTokenConstructor := by
  simp [hasTokenConstructor, TypeDecl.HasTokenConstructor,
    ConstructorDecl.takesTypeTokens_iff_isForTokens]

theorem Reactive.isEnabled_iff {mode : Reactive} : mode.isEnabled = true ↔ mode ≠ .disabled := by
  simp [Reactive.isEnabled]

theorem TypeDecl.isGeneric_iff {decl : TypeDecl} :
    decl.isGeneric = true ↔ decl.typeParams ≠ [] := by
  simp [isGeneric]

/-! ### Declarations that are accepted -/

/-- A class is public and concrete. -/
structure TypeDecl.IsConcrete (decl : TypeDecl) : Prop where
  isPublic : decl.modifiers.isPublic = true
  notAbstract : decl.modifiers.isAbstract = false

/-- A parser can be subclassed on the spot and, in reactive mode, can be given type tokens. -/
structure TypeDecl.IsExtensible (config : Config) (decl : TypeDecl) : Prop where
  notFinal : decl.modifiers.isFinal = false
  noArg : decl.HasRestrictedNoArg
  tokens : config.reactive ≠ .disabled → decl.HasTokenConstructor

/-- A class is what a category demands. There is no such class for the categories of fields. -/
inductive TypeDecl.Meets (config : Config) (round : Round) (decl : TypeDecl) : Category → Prop
  | param (hconcrete : decl.IsConcrete) (hmarker : decl.ReachesMarker round .param) :
      Meets config round decl .param
  | parser (hconcrete : decl.IsConcrete)
      (hgeneric : decl.typeParams ≠ [] → decl.IsExtensible config)
      (hmarker : decl.ReachesMarker round .parser) : Meets config round decl .parser

/-- A field is public and static. -/
structure FieldDecl.IsShared (field : FieldDecl) : Prop where
  isPublic : field.modifiers.isPublic = true
  isStatic : field.modifiers.isStatic = true

/-- A field is what a category demands. There is no such field for the categories of classes. -/
inductive FieldDecl.Meets (round : Round) (field : FieldDecl) : Category → Prop
  | converter (hshared : field.IsShared) (hmarker : field.type.ReachesMarker round .converter) :
      Meets round field .converter
  | okClient (hshared : field.IsShared) (htype : field.type = .named "okhttp3.OkHttpClient" []) :
      Meets round field .okClient
  | domain (hshared : field.IsShared) : Meets round field .domain
  | defaultDomain (hshared : field.IsShared) : Meets round field .defaultDomain

/-! ### Declarations that are rejected -/

/-- The place of a violation in the order in which contracts list their rules. The sort of
declaration comes first and the modifiers next, then what generic parsers have to be in addition,
and then what the supertypes lead to and what the type is. The last two belong to no contract. -/
def Violation.precedence : Violation → Nat
  | misplaced _ => 0
  | notPublic => 1
  | abstract => 2
  | notStatic => 3
  | finalGenericParser => 4
  | missingNoArgConstructor => 5
  | noArgConstructorNotRestricted => 6
  | missingTypeTokenConstructor _ => 7
  | missingMarker _ => 8
  | wrongClientType _ => 9
  | notAConverter => 10
  | emptyAlias => 11
  | duplicateDefaultDomain _ => 12

/-- Of several violations, the one whose rule comes first. -/
def Violation.IsFirst (broken : Violation → Prop) (violation : Violation) : Prop :=
  broken violation ∧ ∀ other, broken other → violation.precedence ≤ other.precedence

/-- A class is not public, or it is not concrete. -/
inductive TypeDecl.BreaksConcrete (decl : TypeDecl) : Violation → Prop
  | notPublic (h : decl.modifiers.isPublic = false) : BreaksConcrete decl .notPublic
  | abstract (h : decl.modifiers.isAbstract = true) : BreaksConcrete decl .abstract

/-- A parser cannot be subclassed on the spot, or it cannot be given the type tokens that it has to
be given. -/
inductive TypeDecl.BreaksExtensible (config : Config) (decl : TypeDecl) : Violation → Prop
  | final (h : decl.modifiers.isFinal = true) : BreaksExtensible config decl .finalGenericParser
  | noArgMissing (h : ∀ ctor ∈ decl.constructors, ctor.params ≠ []) :
      BreaksExtensible config decl .missingNoArgConstructor
  | noArgUnrestricted (h : ¬decl.HasRestrictedNoArg) :
      BreaksExtensible config decl .noArgConstructorNotRestricted
  | tokensMissing (hreactive : config.reactive ≠ .disabled) (h : ¬decl.HasTokenConstructor) :
      BreaksExtensible config decl (.missingTypeTokenConstructor (Contract.tokenSignature decl))

/-- A class breaks a rule of a category. -/
inductive TypeDecl.Breaks (config : Config) (round : Round) (decl : TypeDecl) :
    Category → Violation → Prop
  | misplaced {category : Category} (hfield : category.isField = true) :
      Breaks config round decl category (.misplaced "field")
  | concrete {category : Category} {violation : Violation} (hclass : category.isField = false)
      (h : decl.BreaksConcrete violation) : Breaks config round decl category violation
  | extensible {violation : Violation} (hgeneric : decl.typeParams ≠ [])
      (h : decl.BreaksExtensible config violation) : Breaks config round decl .parser violation
  | notParam (h : ¬decl.ReachesMarker round .param) :
      Breaks config round decl .param (.missingMarker "rxhttp.wrapper.param.Param")
  | notParser (h : ¬decl.ReachesMarker round .parser) :
      Breaks config round decl .parser (.missingMarker "rxhttp.wrapper.parse.Parser")

/-- A field is not public, or it is not static. -/
inductive FieldDecl.BreaksShared (field : FieldDecl) : Violation → Prop
  | notPublic (h : field.modifiers.isPublic = false) : BreaksShared field .notPublic
  | notStatic (h : field.modifiers.isStatic = false) : BreaksShared field .notStatic

/-- A field breaks a rule of a category. -/
inductive FieldDecl.Breaks (round : Round) (field : FieldDecl) : Category → Violation → Prop
  | misplaced {category : Category} (hclass : category.isField = false) :
      Breaks round field category (.misplaced "class")
  | shared {category : Category} {violation : Violation} (hfield : category.isField = true)
      (h : field.BreaksShared violation) : Breaks round field category violation
  | notClient (h : field.type ≠ .named "okhttp3.OkHttpClient" []) :
      Breaks round field .okClient (.wrongClientType field.type.text)
  | notConverter (h : ¬field.type.ReachesMarker round .converter) :
      Breaks round field .converter .notAConverter

/-! ### Breaking no rule -/

section NoBreaks

variable {config : Config} {round : Round} {decl : TypeDecl} {field : FieldDecl}
  {category : Category}

theorem TypeDecl.isConcrete_iff :
    decl.IsConcrete ↔ ∀ violation, ¬decl.BreaksConcrete violation := by
  constructor
  · rintro ⟨hpublic, hconcrete⟩ _ (h | h)
    · simp [hpublic] at h
    · simp [hconcrete] at h
  · intro h
    exact ⟨eq_true_of_ne_false fun hnot => h _ (.notPublic hnot),
      eq_false_of_ne_true fun hnot => h _ (.abstract hnot)⟩

theorem TypeDecl.isExtensible_iff :
    decl.IsExtensible config ↔ ∀ violation, ¬decl.BreaksExtensible config violation := by
  constructor
  · rintro ⟨hfinal, hnoArg, htokens⟩ _ (h | h | h | ⟨hreactive, h⟩)
    · simp [hfinal] at h
    · obtain ⟨ctor, ⟨hparams, before, after, hctors, -⟩, -⟩ := hnoArg
      exact h ctor (by simp [hctors]) hparams
    · exact h hnoArg
    · exact h (htokens hreactive)
  · intro h
    exact ⟨eq_false_of_ne_true fun hnot => h _ (.final hnot),
      not_not.1 fun hnot => h _ (.noArgUnrestricted hnot),
      fun hreactive => not_not.1 fun hnot => h _ (.tokensMissing hreactive hnot)⟩

theorem FieldDecl.isShared_iff : field.IsShared ↔ ∀ violation, ¬field.BreaksShared violation := by
  constructor
  · rintro ⟨hpublic, hstatic⟩ _ (h | h)
    · simp [hpublic] at h
    · simp [hstatic] at h
  · intro h
    exact ⟨eq_true_of_ne_false fun hnot => h _ (.notPublic hnot),
      eq_true_of_ne_false fun hnot => h _ (.notStatic hnot)⟩

/-- A class is what a category demands exactly if it breaks none of the rules. -/
theorem TypeDecl.meets_iff :
    decl.Meets config round category ↔
      ∀ violation, ¬decl.Breaks config round category violation := by
  constructor
  · intro hmeets violation hbreaks
    have hconcrete : decl.IsConcrete := by
      cases hmeets <;> assumption
    cases hbreaks with
    | misplaced hfield => cases hmeets <;> contradiction
    | concrete _ h => exact isConcrete_iff.1 hconcrete _ h
    | extensible hgeneric h =>
        cases hmeets with
        | parser _ hextensible _ => exact isExtensible_iff.1 (hextensible hgeneric) _ h
    | notParam h =>
        cases hmeets with
        | param _ hmarker => exact h hmarker
    | notParser h =>
        cases hmeets with
        | parser _ _ hmarker => exact h hmarker
  · intro h
    have hconcrete (hclass : category.isField = false) : decl.IsConcrete :=
      isConcrete_iff.2 fun _ hbreaks => h _ (.concrete hclass hbreaks)
    cases category with
    | param => exact .param (hconcrete rfl) (not_not.1 fun hnot => h _ (.notParam hnot))
    | parser =>
        refine .parser (hconcrete rfl) (fun hgeneric => isExtensible_iff.2 ?_)
          (not_not.1 fun hnot => h _ (.notParser hnot))
        exact fun _ hbreaks => h _ (.extensible hgeneric hbreaks)
    | converter | okClient | domain | defaultDomain => exact absurd (.misplaced rfl) (h _)

/-- The same goes for a field. -/
theorem FieldDecl.meets_iff :
    field.Meets round category ↔ ∀ violation, ¬field.Breaks round category violation := by
  constructor
  · intro hmeets violation hbreaks
    have hshared : field.IsShared := by
      cases hmeets <;> assumption
    cases hbreaks with
    | misplaced hclass => cases hmeets <;> contradiction
    | shared _ h => exact isShared_iff.1 hshared _ h
    | notClient h =>
        cases hmeets with
        | okClient _ htype => exact h htype
    | notConverter h =>
        cases hmeets with
        | converter _ hmarker => exact h hmarker
  · intro h
    have hshared (hfield : category.isField = true) : field.IsShared :=
      isShared_iff.2 fun _ hbreaks => h _ (.shared hfield hbreaks)
    cases category with
    | param | parser => exact absurd (.misplaced rfl) (h _)
    | converter => exact .converter (hshared rfl) (not_not.1 fun hnot => h _ (.notConverter hnot))
    | okClient => exact .okClient (hshared rfl) (not_not.1 fun hnot => h _ (.notClient hnot))
    | domain => exact .domain (hshared rfl)
    | defaultDomain => exact .defaultDomain (hshared rfl)

end NoBreaks

/-! ### The first broken clause -/

/-- A violation is that of a broken clause. -/
def Clause.Broken (clauses : List Clause) (violation : Violation) : Prop :=
  ∃ clause ∈ clauses, clause.holds = false ∧ clause.violation = violation

/-- Clauses stand in the order of their rules. -/
def Clause.Ordered (clauses : List Clause) : Prop :=
  clauses.Pairwise fun first second => first.violation.precedence < second.violation.precedence

namespace Clause

variable {clause : Clause} {clauses rest : List Clause} {violation : Violation}

@[simp]
theorem broken_nil : Broken [] violation ↔ False := by
  simp [Broken]

@[simp]
theorem broken_cons :
    Broken (clause :: rest) violation ↔
      (clause.holds = false ∧ clause.violation = violation) ∨ Broken rest violation := by
  simp [Broken]

@[simp]
theorem broken_append :
    Broken (clauses ++ rest) violation ↔ Broken clauses violation ∨ Broken rest violation := by
  simp only [Broken, List.mem_append, or_and_right, exists_or]

theorem broken_ite {cond : Prop} [Decidable cond] :
    Broken (if cond then clauses else []) violation ↔ cond ∧ Broken clauses violation := by
  by_cases h : cond <;> simp [h]

theorem not_broken_iff :
    (∀ violation, ¬Broken clauses violation) ↔ ∀ clause ∈ clauses, clause.holds = true := by
  constructor
  · intro h clause hmem
    exact eq_true_of_ne_false fun hholds => h _ ⟨clause, hmem, hholds, rfl⟩
  · rintro h _ ⟨clause, hmem, hholds, rfl⟩
    simp [h clause hmem] at hholds

/-- Of clauses in order, the first broken one is that of the first broken rule. -/
theorem firstBroken?_eq_some_iff (h : Ordered clauses) :
    firstBroken? clauses = some violation ↔ violation.IsFirst (Broken clauses) := by
  induction clauses with
  | nil => simp [firstBroken?, Violation.IsFirst]
  | cons clause rest ih =>
      obtain ⟨hfirst, hrest⟩ := List.pairwise_cons.1 h
      cases hholds : clause.holds with
      | true =>
          have hskip : firstBroken? (clause :: rest) = firstBroken? rest := by
            simp [firstBroken?, hholds]
          rw [hskip, ih hrest]
          simp [Violation.IsFirst, hholds]
      | false =>
          have hhead : firstBroken? (clause :: rest) = some clause.violation := by
            simp [firstBroken?, hholds]
          have hlater : ∀ other, Broken rest other →
              clause.violation.precedence < other.precedence := by
            rintro _ ⟨other, hother, -, rfl⟩
            exact hfirst other hother
          have hbroken : Broken (clause :: rest) clause.violation :=
            broken_cons.2 (.inl ⟨hholds, rfl⟩)
          rw [hhead, Option.some.injEq]
          constructor
          · rintro rfl
            refine ⟨hbroken, fun other hother => ?_⟩
            rcases broken_cons.1 hother with ⟨-, rfl⟩ | hother
            · exact le_rfl
            · exact (hlater other hother).le
          · rintro ⟨hviolation, hleast⟩
            rcases broken_cons.1 hviolation with ⟨-, heq⟩ | hviolation
            · exact heq
            · exact absurd (hleast _ hbroken) (hlater violation hviolation).not_ge

end Clause

namespace Contract

variable {config : Config} {round : Round} {decl : TypeDecl} {field : FieldDecl}
  {category : Category} {violation : Violation}

theorem ordered_ofType : Clause.Ordered (ofType config round decl category) := by
  cases category <;> cases hgeneric : decl.isGeneric <;>
    simp [Clause.Ordered, ofType, hgeneric, concrete, genericParser, inherits,
      Violation.precedence]

theorem ordered_ofField : Clause.Ordered (ofField round field category) := by
  cases category <;> simp [Clause.Ordered, ofField, shared, Violation.precedence]

/-! ### What the clauses demand -/

theorem inherits_holds_eq_false_iff {marker : LibraryType} :
    (inherits round decl marker).holds = false ↔ ¬decl.ReachesMarker round marker := by
  rw [← Bool.not_eq_true]
  exact not_congr Round.declReaches_iff

theorem broken_concrete_iff :
    Clause.Broken (concrete decl) violation ↔ decl.BreaksConcrete violation := by
  simp only [concrete, Clause.broken_cons, Clause.broken_nil, or_false, Bool.not_eq_false']
  constructor
  · rintro (⟨h, rfl⟩ | ⟨h, rfl⟩)
    · exact .notPublic h
    · exact .abstract h
  · rintro (h | h)
    · exact .inl ⟨h, rfl⟩
    · exact .inr ⟨h, rfl⟩

theorem broken_genericParser_iff :
    Clause.Broken (genericParser config decl) violation ↔
      decl.BreaksExtensible config violation := by
  have hnoArg : decl.noArgConstructor?.isSome = false ↔
      ∀ ctor ∈ decl.constructors, ctor.params ≠ [] := by
    rw [← Bool.not_eq_true, TypeDecl.noArgConstructor?_isSome_iff]
    simp
  have hrestricted : decl.noArgConstructor?.any (·.modifiers.isRestricted) = false ↔
      ¬decl.HasRestrictedNoArg := by
    rw [← Bool.not_eq_true, TypeDecl.noArgConstructor?_any_isRestricted_iff]
  have htokens : (!config.reactive.isEnabled || hasTokenConstructor decl) = false ↔
      config.reactive ≠ .disabled ∧ ¬decl.HasTokenConstructor := by
    rw [Bool.or_eq_false_iff, Bool.not_eq_false', Reactive.isEnabled_iff, ← hasTokenConstructor_iff,
      Bool.not_eq_true]
  simp only [genericParser, Clause.broken_cons, Clause.broken_nil, or_false, Bool.not_eq_false',
    hnoArg, hrestricted, htokens]
  constructor
  · rintro (⟨h, rfl⟩ | ⟨h, rfl⟩ | ⟨h, rfl⟩ | ⟨⟨hreactive, h⟩, rfl⟩)
    · exact .final h
    · exact .noArgMissing h
    · exact .noArgUnrestricted h
    · exact .tokensMissing hreactive h
  · rintro (h | h | h | ⟨hreactive, h⟩)
    · exact .inl ⟨h, rfl⟩
    · exact .inr (.inl ⟨h, rfl⟩)
    · exact .inr (.inr (.inl ⟨h, rfl⟩))
    · exact .inr (.inr (.inr ⟨⟨hreactive, h⟩, rfl⟩))

theorem broken_shared_iff :
    Clause.Broken (shared field) violation ↔ field.BreaksShared violation := by
  simp only [shared, Clause.broken_cons, Clause.broken_nil, or_false]
  constructor
  · rintro (⟨h, rfl⟩ | ⟨h, rfl⟩)
    · exact .notPublic h
    · exact .notStatic h
  · rintro (h | h)
    · exact .inl ⟨h, rfl⟩
    · exact .inr ⟨h, rfl⟩

/-- A clause of a class is broken exactly if the class breaks the rule. -/
theorem broken_ofType_iff :
    Clause.Broken (ofType config round decl category) violation ↔
      decl.Breaks config round category violation := by
  cases category with
  | param =>
      simp only [ofType, Clause.broken_append, broken_concrete_iff, Clause.broken_cons,
        Clause.broken_nil, or_false, inherits_holds_eq_false_iff]
      constructor
      · rintro (h | ⟨h, rfl⟩)
        · exact .concrete rfl h
        · exact .notParam h
      · intro hbreaks
        cases hbreaks with
        | misplaced hfield => contradiction
        | concrete _ h => exact .inl h
        | notParam h => exact .inr ⟨h, rfl⟩
  | parser =>
      simp only [ofType, Clause.broken_append, broken_concrete_iff, Clause.broken_ite,
        TypeDecl.isGeneric_iff, broken_genericParser_iff, Clause.broken_cons,
        Clause.broken_nil, or_false, inherits_holds_eq_false_iff]
      constructor
      · rintro ((h | ⟨hgeneric, h⟩) | ⟨h, rfl⟩)
        · exact .concrete rfl h
        · exact .extensible hgeneric h
        · exact .notParser h
      · intro hbreaks
        cases hbreaks with
        | misplaced hfield => contradiction
        | concrete _ h => exact .inl (.inl h)
        | extensible hgeneric h => exact .inl (.inr ⟨hgeneric, h⟩)
        | notParser h => exact .inr ⟨h, rfl⟩
  | converter | okClient | domain | defaultDomain =>
      simp only [ofType, Clause.broken_cons, Clause.broken_nil, or_false, true_and]
      constructor
      · rintro rfl
        exact .misplaced rfl
      · intro hbreaks
        cases hbreaks with
        | misplaced => rfl
        | concrete hclass => contradiction

/-- A clause of a field is broken exactly if the field breaks the rule. -/
theorem broken_ofField_iff :
    Clause.Broken (ofField round field category) violation ↔
      field.Breaks round category violation := by
  cases category with
  | param | parser =>
      simp only [ofField, Clause.broken_cons, Clause.broken_nil, or_false, true_and]
      constructor
      · rintro rfl
        exact .misplaced rfl
      · intro hbreaks
        cases hbreaks with
        | misplaced => rfl
        | shared hfield => contradiction
  | converter =>
      have hreaches : round.typeReaches field.type .converter = false ↔
          ¬field.type.ReachesMarker round .converter := by
        rw [← Bool.not_eq_true]
        exact not_congr Round.typeReaches_iff
      simp only [ofField, Clause.broken_append, broken_shared_iff, Clause.broken_cons,
        Clause.broken_nil, or_false, hreaches]
      constructor
      · rintro (h | ⟨h, rfl⟩)
        · exact .shared rfl h
        · exact .notConverter h
      · intro hbreaks
        cases hbreaks with
        | misplaced hclass => contradiction
        | shared _ h => exact .inl h
        | notConverter h => exact .inr ⟨h, rfl⟩
  | okClient =>
      have hclient : (field.type == .ofLibrary .okHttpClient []) = false ↔
          field.type ≠ .named "okhttp3.OkHttpClient" [] := by
        rw [beq_eq_false_iff_ne]
        rfl
      simp only [ofField, Clause.broken_append, broken_shared_iff, Clause.broken_cons,
        Clause.broken_nil, or_false, hclient]
      constructor
      · rintro (h | ⟨h, rfl⟩)
        · exact .shared rfl h
        · exact .notClient h
      · intro hbreaks
        cases hbreaks with
        | misplaced hclass => contradiction
        | shared _ h => exact .inl h
        | notClient h => exact .inr ⟨h, rfl⟩
  | domain | defaultDomain =>
      rw [ofField, broken_shared_iff]
      constructor
      · exact .shared rfl
      · intro hbreaks
        cases hbreaks with
        | misplaced hclass => contradiction
        | shared _ h => exact h

/-! ### Verdicts -/

theorem checkType_eq_ok_iff_not_breaks :
    checkType config round category decl = .ok () ↔
      ∀ violation, ¬decl.Breaks config round category violation := by
  rw [checkType_eq_ok_iff, ← Clause.not_broken_iff]
  exact forall_congr' fun _ => not_congr broken_ofType_iff

theorem checkField_eq_ok_iff_not_breaks :
    checkField round category field = .ok () ↔
      ∀ violation, ¬field.Breaks round category violation := by
  rw [checkField_eq_ok_iff, ← Clause.not_broken_iff]
  exact forall_congr' fun _ => not_congr broken_ofField_iff

theorem firstBroken?_ofType_eq_some_iff :
    Clause.firstBroken? (ofType config round decl category) = some violation ↔
      violation.IsFirst (decl.Breaks config round category) := by
  rw [Clause.firstBroken?_eq_some_iff ordered_ofType]
  simp only [Violation.IsFirst, broken_ofType_iff]

theorem checkType_eq_error_iff {error : ContractError} :
    checkType config round category decl = .error error ↔
      error.category = category ∧ error.declaration = decl.name ∧
        error.violation.IsFirst (decl.Breaks config round category) := by
  rw [← firstBroken?_ofType_eq_some_iff, checkType]
  cases Clause.firstBroken? (ofType config round decl category) with
  | none => simp
  | some violation =>
      cases error
      simp [eq_comm]

theorem firstBroken?_ofField_eq_some_iff :
    Clause.firstBroken? (ofField round field category) = some violation ↔
      violation.IsFirst (field.Breaks round category) := by
  rw [Clause.firstBroken?_eq_some_iff ordered_ofField]
  simp only [Violation.IsFirst, broken_ofField_iff]

theorem checkField_eq_error_iff {error : ContractError} :
    checkField round category field = .error error ↔
      error.category = category ∧ error.declaration = field.qualifiedName ∧
        error.violation.IsFirst (field.Breaks round category) := by
  rw [← firstBroken?_ofField_eq_some_iff, checkField]
  cases Clause.firstBroken? (ofField round field category) with
  | none => simp
  | some violation =>
      cases error
      simp [eq_comm]

/-- **A declaration is accepted exactly if it meets the whole contract of its category.** This holds
of classes and of fields, in every round and configuration, whatever the supertypes look like. A
declaration that is not accepted is rejected in its own name, with the first rule that it breaks. -/
theorem check_iff (config : Config) (round : Round) (category : Category) (decl : TypeDecl)
    (field : FieldDecl) :
    (checkType config round category decl = .ok () ↔ decl.Meets config round category) ∧
    (∀ error, checkType config round category decl = .error error ↔
      error.category = category ∧ error.declaration = decl.name ∧
        error.violation.IsFirst (decl.Breaks config round category)) ∧
    (checkField round category field = .ok () ↔ field.Meets round category) ∧
    (∀ error, checkField round category field = .error error ↔
      error.category = category ∧ error.declaration = field.qualifiedName ∧
        error.violation.IsFirst (field.Breaks round category)) := by
  refine ⟨?_, fun _ => checkType_eq_error_iff, ?_, fun _ => checkField_eq_error_iff⟩
  · rw [checkType_eq_ok_iff_not_breaks, TypeDecl.meets_iff]
  · rw [checkField_eq_ok_iff_not_breaks, FieldDecl.meets_iff]

end Contract

end FluentHttp
