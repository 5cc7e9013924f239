import FluentHttp.Proofs.Api.Bodies
import FluentHttp.Proofs.Api.Element
import FluentHttp.Proofs.Declaration.Mentioned
import FluentHttp.Proofs.Generated
import FluentHttp.Proofs.TypeExpr.Variables

/-!
# FluentHttp.Proofs.WellScoped

Type variables in generated code are declared where they are mentioned.

The type parameters of a declaration are copied to its wrapper, and to every static or generic
member that is made from it. A static member must bring all of its type variables, an instance
member has those of its class too (`Java.ClassDecl.WellScoped`). This holds of all classes that are
generated from declarations that mention their own type variables only
(`Session.wellScoped_of_generated`).
-/

namespace FluentHttp

open Api Java

/-! ### Declarations -/

/-- The names of type parameters. -/
def typeParamNames (typeParams : List TypeParam) : List String :=
  typeParams.map (·.name)

/-- The bounds and the public constructors of a declaration mention its own type parameters only. -/
structure TypeDecl.WellScoped (decl : TypeDecl) : Prop where
  bounds : ∀ typeParam ∈ decl.typeParams, ∀ bound ∈ typeParam.bounds,
    bound.MentionsOnly (typeParamNames decl.typeParams)
  params : ∀ ctor ∈ decl.publicConstructors, ∀ param ∈ ctor.params,
    param.type.MentionsOnly (typeParamNames decl.typeParams)
  throws : ∀ ctor ∈ decl.publicConstructors, ∀ type ∈ ctor.throws,
    type.MentionsOnly (typeParamNames decl.typeParams)

/-- The methods that a builder adds mention its type parameters and their own. -/
structure TypeDecl.WellScopedBuilder (decl : TypeDecl) : Prop extends decl.WellScoped where
  methods : ∀ method ∈ decl.ownMethods, ∀ type ∈ method.signatureTypes,
    type.MentionsOnly (typeParamNames method.typeParams ++ typeParamNames decl.typeParams)

/-- What a parser parses mentions its type parameters. -/
structure TypeDecl.WellScopedParser (decl : TypeDecl) : Prop extends decl.WellScoped where
  product : ∀ type, decl.product? = some type →
    type.MentionsOnly (typeParamNames decl.typeParams)

theorem TypeDecl.mentionsOnly_selfType (decl : TypeDecl) :
    decl.selfType.MentionsOnly (typeParamNames decl.typeParams) :=
  TypeExpr.mentionsOnly_applied

theorem Java.ClassDecl.mentionsOnly_selfType (decl : ClassDecl) :
    decl.selfType.MentionsOnly (typeParamNames decl.typeParams) :=
  TypeExpr.mentionsOnly_applied

/-! ### Classes -/

namespace Java

/-- The types that a member mentions outside of its body. -/
def Member.signatureTypes (member : Member) : List TypeExpr :=
  member.typeParams.flatMap (·.bounds) ++ member.params.map (·.type) ++ member.returnType.toList
    ++ member.throws

/-- Code that mentions given type variables only. -/
def Vocabulary.ofVariables (names : List String) : Vocabulary where
  names _ := True
  calls _ := True
  types := TypeExpr.MentionsOnly names

/-- A member mentions no type variables but the named ones. -/
structure Member.MentionsOnly (names : List String) (member : Member) : Prop where
  signature : ∀ type ∈ member.signatureTypes, type.MentionsOnly names
  body : BodyWithin (.ofVariables names) member.body

/-- The type variables that a member of a class can mention: its own, and in an instance member
those of the class. -/
def ClassDecl.variablesIn (decl : ClassDecl) (member : Member) : List String :=
  typeParamNames member.typeParams ++
    if member.modifiers.isStatic then [] else typeParamNames decl.typeParams

/-- All type variables in a class are declared where they are mentioned. -/
structure ClassDecl.WellScoped (decl : ClassDecl) : Prop where
  superclass : ∀ type ∈ decl.superclass, type.MentionsOnly (typeParamNames decl.typeParams)
  bounds : ∀ typeParam ∈ decl.typeParams, ∀ bound ∈ typeParam.bounds,
    bound.MentionsOnly (typeParamNames decl.typeParams)
  fields : ∀ field ∈ decl.fields, field.type.MentionsOnly (typeParamNames decl.typeParams)
  members : ∀ member ∈ decl.members, member.MentionsOnly (decl.variablesIn member)

/-- A type in a signature is in one of its parts. -/
theorem Member.forall_mem_signatureTypes {member : Member} {p : TypeExpr → Prop} :
    (∀ type ∈ member.signatureTypes, p type) ↔
      (∀ typeParam ∈ member.typeParams, ∀ bound ∈ typeParam.bounds, p bound) ∧
        (∀ param ∈ member.params, p param.type) ∧ (∀ type ∈ member.returnType, p type) ∧
          ∀ type ∈ member.throws, p type := by
  simp only [signatureTypes, List.forall_mem_append, List.forall_mem_flatMap, List.forall_mem_map,
    Option.mem_toList, Option.mem_def, and_assoc]

theorem ClassDecl.typeParamNames_subset_variablesIn (decl : ClassDecl) (member : Member) :
    typeParamNames member.typeParams ⊆ decl.variablesIn member :=
  List.subset_append_left _ _

theorem ClassDecl.variablesIn_of_instance (decl : ClassDecl) {member : Member}
    (h : member.modifiers.isStatic = false) :
    decl.variablesIn member =
      typeParamNames member.typeParams ++ typeParamNames decl.typeParams := by
  rw [variablesIn, h]
  rfl

end Java

/-! ### Wrappers -/

section Wrapper

variable {config : Config} {decl : TypeDecl}

/-- The wrapper of a builder has its type parameters, and applies the base to these. -/
theorem mentionsOnly_superclass_wrapper {type : TypeExpr}
    (h : type ∈ (wrapper config decl).superclass) :
    type.MentionsOnly (typeParamNames decl.typeParams) := by
  obtain ⟨args, hsuperclass, hargs⟩ := superclass_wrapper config decl
  rw [hsuperclass] at h
  obtain rfl := Option.some.inj h
  rw [TypeExpr.mentionsOnly_named]
  intro arg harg
  rcases hargs arg harg with heq | heq
  · rw [heq]
    exact decl.mentionsOnly_selfType
  · rw [heq]
    exact (wrapperHead config decl).mentionsOnly_selfType

/-- A method of a wrapper has the types of the builder's method in its signature, but for the result
where it returns the wrapper. -/
theorem mem_signatureTypes_wrapperMethod {method : MethodDecl} {type : TypeExpr}
    (h : type ∈ (wrapperMethod config decl method).signatureTypes) :
    type ∈ method.signatureTypes ∨ type = (wrapperHead config decl).selfType := by
  have hreturn : (wrapperMethod config decl method).returnType = some method.returnType ∨
      (wrapperMethod config decl method).returnType =
        some (wrapperHead config decl).selfType := by
    unfold wrapperMethod delegatingMethod
    by_cases hself : method.returnType.hasRawName decl.name = true
    · right
      simp only [hself, if_true]
    · left
      cases hvoid : method.returnType <;> simp_all [TypeExpr.isVoid]
  unfold Java.Member.signatureTypes at h
  unfold MethodDecl.signatureTypes
  rcases hreturn with heq | heq
  · rw [heq] at h
    exact .inl h
  · rw [heq] at h
    simp only [List.mem_append] at h ⊢
    rcases h with ((hbound | hparam) | hreturn) | hthrows
    · exact .inl (.inl (.inl (.inl hbound)))
    · exact .inl (.inl (.inl (.inr hparam)))
    · exact .inr (List.mem_singleton.1 hreturn)
    · exact .inl (.inr hthrows)

/-- The wrapper of a well-scoped builder is well scoped. -/
theorem wellScoped_wrapper (h : decl.WellScopedBuilder) : (wrapper config decl).WellScoped where
  superclass := fun _ => mentionsOnly_superclass_wrapper
  bounds := h.bounds
  fields := fun _ hmem => absurd hmem List.not_mem_nil
  members := by
    intro member hmember
    have hkind := wrapperMember_of_mem hmember
    rw [(wrapper config decl).variablesIn_of_instance hkind.isStatic]
    have hclass : typeParamNames decl.typeParams ⊆
        typeParamNames member.typeParams ++ typeParamNames (wrapper config decl).typeParams :=
      List.subset_append_right _ _
    have hself := decl.mentionsOnly_selfType.mono hclass
    have hwrapper := (wrapperHead config decl).mentionsOnly_selfType.mono hclass
    refine ⟨?_, hkind.bodyWithin (fun _ _ => trivial) trivial hself⟩
    intro type htype
    cases hkind with
    | construct =>
        obtain rfl := List.mem_singleton.1 htype
        exact hself
    | @delegate method hmethod =>
        rcases mem_signatureTypes_wrapperMethod htype with hown | heq
        · exact h.methods method hmethod type hown
        · rw [heq]
          exact hwrapper

end Wrapper

/-! ### Members made from constructors -/

section Constructors

variable {decl : TypeDecl} {names : List String}

/-- A member with the type parameters of a declaration has their bounds in its signature. -/
theorem TypeDecl.WellScoped.mentionsOnly_signature (h : decl.WellScoped) {member : Java.Member}
    (htypeParams : member.typeParams = decl.typeParams)
    (hparams : ∀ param ∈ member.params,
      param.type.MentionsOnly (typeParamNames decl.typeParams))
    (hreturn : ∀ type ∈ member.returnType, type.MentionsOnly (typeParamNames decl.typeParams))
    (hthrows : ∀ type ∈ member.throws, type.MentionsOnly (typeParamNames decl.typeParams)) :
    ∀ type ∈ member.signatureTypes, type.MentionsOnly (typeParamNames member.typeParams) := by
  rw [Member.forall_mem_signatureTypes, htypeParams]
  exact ⟨h.bounds, hparams, hreturn, hthrows⟩

theorem mentionsOnly_factoryParams {ctor : ConstructorDecl}
    (h : ∀ param ∈ ctor.params, param.type.MentionsOnly names) :
    ∀ param ∈ factoryParams ctor, param.type.MentionsOnly names := by
  unfold factoryParams
  split
  · rw [List.forall_mem_append, List.forall_mem_singleton]
    exact ⟨h, by simp [formatArgs]⟩
  · exact h

/-- A class token is for one of the type parameters. -/
theorem mem_of_token_mem_roles {typeParams : List TypeParam} {params : List Parameter}
    {param : Parameter} {typeParam : TypeParam}
    (h : (param, .token typeParam) ∈ roles typeParams params) : typeParam ∈ typeParams := by
  obtain ⟨place, hplace, heq⟩ := List.mem_mapIdx.1 h
  have hrole := (Prod.mk.inj heq).2
  unfold Role.of at hrole
  split at hrole
  · cases hrole
  · split at hrole
    · cases hnext : typeParams[tokensBefore params place]? with
      | none =>
          rw [hnext] at hrole
          cases hrole
      | some next =>
          rw [hnext] at hrole
          obtain rfl := Role.token.inj hrole
          exact List.mem_of_getElem? hnext
    · cases hrole

theorem mentionsOnly_classToken {typeParams : List TypeParam} {typeParam : TypeParam}
    (h : typeParam ∈ typeParams) :
    (classToken typeParam).MentionsOnly (typeParamNames typeParams) := by
  unfold classToken TypeParam.toVariable
  rw [TypeExpr.mentionsOnly_ofLibrary, List.forall_mem_singleton, TypeExpr.mentionsOnly_variable]
  exact List.mem_map_of_mem h

/-- An accessor takes class tokens of the type parameters, and what the constructor takes. -/
theorem mentionsOnly_takenParams {typeParams : List TypeParam} {params : List Parameter}
    (h : ∀ param ∈ params, param.type.MentionsOnly (typeParamNames typeParams)) :
    ∀ taken ∈ takenParams typeParams params,
      taken.type.MentionsOnly (typeParamNames typeParams) := by
  intro taken htaken
  obtain ⟨⟨param, role⟩, hrole, htaken⟩ := List.mem_flatMap.1 htaken
  cases role with
  | tokenArray =>
      obtain ⟨typeParam, hmem, rfl⟩ := List.mem_map.1 htaken
      exact mentionsOnly_classToken hmem
  | token typeParam =>
      obtain rfl := List.mem_singleton.1 htaken
      exact mentionsOnly_classToken (mem_of_token_mem_roles hrole)
  | plain =>
      obtain rfl := List.mem_singleton.1 htaken
      have hparam : taken ∈ (roles typeParams params).map Prod.fst :=
        List.mem_map_of_mem hrole
      rw [map_fst_roles] at hparam
      exact h taken hparam

/-- A product in a container mentions what the product does. -/
theorem mentionsOnly_inContainer {container : ClassRef} {product : TypeExpr}
    (h : product.MentionsOnly names) : (inContainer container product).MentionsOnly names := by
  rcases inContainer_cases container product with ⟨name, args, heq, -, hcontainer⟩ | ⟨-, hcontainer⟩
  · rw [heq, TypeExpr.mentionsOnly_named] at h
    rw [hcontainer, TypeExpr.mentionsOnly_named, List.forall_mem_map]
    intro arg harg
    rw [TypeExpr.mentionsOnly_named, List.forall_mem_singleton]
    exact h arg harg
  · rw [hcontainer, TypeExpr.mentionsOnly_named, List.forall_mem_singleton]
    exact h

/-- The signature of an accessor mentions the type parameters of the parser if what it parses does.
-/
theorem mentionsOnly_signature_accessorMember (observable name : String) {ctor : ConstructorDecl}
    {element : TypeExpr} (body : List Stmt) (h : decl.WellScopedParser)
    (hctor : ctor ∈ decl.publicConstructors)
    (helement : element.MentionsOnly (typeParamNames decl.typeParams)) :
    ∀ type ∈ (accessorMember observable name decl ctor element body).signatureTypes,
      type.MentionsOnly (typeParamNames decl.typeParams) := by
  refine h.toWellScoped.mentionsOnly_signature rfl ?_ ?_ (h.throws ctor hctor)
  · rw [accessorMember, flatMap_params_slotsOf]
    exact mentionsOnly_takenParams (h.params ctor hctor)
  · intro type htype
    obtain rfl := Option.some.inj htype
    rw [TypeExpr.mentionsOnly_named, List.forall_mem_singleton]
    exact helement

/-- The signature of an extension mentions the type parameters of the parser. -/
theorem mentionsOnly_signature_extension (name : String) {product : TypeExpr}
    {ctor : ConstructorDecl} (parser : Expr) (h : decl.WellScoped)
    (hproduct : product.MentionsOnly (typeParamNames decl.typeParams))
    (hparams : ∀ param ∈ ctor.params, param.type.MentionsOnly (typeParamNames decl.typeParams))
    (hthrows : ∀ type ∈ ctor.throws, type.MentionsOnly (typeParamNames decl.typeParams)) :
    ∀ type ∈ (extension name decl product ctor parser).signatureTypes,
      type.MentionsOnly (typeParamNames decl.typeParams) := by
  refine h.mentionsOnly_signature rfl ?_ ?_ hthrows
  · exact List.forall_mem_cons.2 ⟨by simp [receiver], hparams⟩
  · intro type htype
    obtain rfl := Option.some.inj htype
    rw [TypeExpr.mentionsOnly_named, List.forall_mem_singleton]
    exact hproduct

end Constructors

/-! ### The entry class -/

section EntryClass

variable {config : Config} {registry : Registry}

/-- A member without type parameters can mention those of the entry class if it is no static one. -/
theorem mem_variablesIn_entryOf {member : Java.Member} (h : member.modifiers.isStatic = false)
    {name : String} (hname : name = "P" ∨ name = "R") :
    (TypeExpr.variable name).MentionsOnly ((entryOf config registry).variablesIn member) := by
  rw [(entryOf config registry).variablesIn_of_instance h, TypeExpr.mentionsOnly_variable]
  exact List.mem_append_right _ (List.mem_pair.2 hname)

theorem mentionsOnly_signature_setter (name : String) (body : List Stmt) :
    ∀ type ∈ (setter name body).signatureTypes,
      type.MentionsOnly ((entryOf config registry).variablesIn (setter name body)) := by
  intro type htype
  obtain rfl := List.mem_singleton.1 htype
  exact mem_variablesIn_entryOf rfl (.inr rfl)

/-- The signature of a method of the entry class mentions the method's own type parameters, or in a
method without any those of the class. -/
theorem mentionsOnly_signature_of_entryMethod
    (hparams : ∀ entry ∈ registry.params, entry.2.WellScoped)
    (hparsers : ∀ entry ∈ registry.parsers, entry.2.WellScopedParser) {member : Java.Member}
    (h : EntryMethod config registry member) :
    ∀ type ∈ member.signatureTypes,
      type.MentionsOnly ((entryOf config registry).variablesIn member) := by
  have hown := (entryOf config registry).typeParamNames_subset_variablesIn member
  cases h with
  | format => simp [Member.forall_mem_signatureTypes, formatMethod, formatArgs, stringType]
  | @factory aliasName decl ctor hentry hctor =>
      have hdecl := hparams _ hentry
      intro type htype
      refine (hdecl.mentionsOnly_signature rfl ?_ ?_ ?_ type htype).mono hown
      · exact mentionsOnly_factoryParams (hdecl.params ctor hctor)
      · intro type htype
        obtain rfl := Option.some.inj htype
        exact (wrapperHead config decl).mentionsOnly_selfType
      · exact hdecl.throws ctor hctor
  | converter _ => exact mentionsOnly_signature_setter _ _
  | client _ => exact mentionsOnly_signature_setter _ _
  | domain _ => exact mentionsOnly_signature_setter _ _
  | defaultDomain hdefault =>
      intro type htype
      have htype : type ∈ [TypeExpr.variable "P", TypeExpr.variable "P"] := htype
      obtain rfl : type = .variable "P" := by simpa using htype
      exact mem_variablesIn_entryOf rfl (.inl rfl)
  | addDomain => simp [Member.forall_mem_signatureTypes, addDomainMethod, stringType]
  | @accessor aliasName observable decl product ctor _ hentry hproduct hctor =>
      have hdecl := hparsers _ hentry
      intro type htype
      exact (mentionsOnly_signature_accessorMember observable ("as" ++ aliasName) _ hdecl hctor
        (hdecl.product product hproduct) type htype).mono hown
  | @containerAccessor aliasName observable decl product ctor container _ hentry hproduct hctor
      hcontainer =>
      have hdecl := hparsers _ hentry
      intro type htype
      exact (mentionsOnly_signature_accessorMember observable
        ("as" ++ aliasName ++ container.simpleName) _ hdecl hctor
        (mentionsOnly_inContainer (hdecl.product product hproduct)) type htype).mono hown

/-- The entry class is well scoped if builders and parsers are. -/
theorem wellScoped_entryOf (hparams : ∀ entry ∈ registry.params, entry.2.WellScoped)
    (hparsers : ∀ entry ∈ registry.parsers, entry.2.WellScopedParser) :
    (entryOf config registry).WellScoped where
  superclass := by
    intro type htype
    obtain rfl := Option.some.inj htype
    simp
  bounds := by
    simp [entryOf, entryClass, typeParamNames, selfVariable]
  fields := by
    simp [entryOf, entryClass, typeParamNames]
  members := by
    intro member hmember
    rw [members_entryOf] at hmember
    rcases List.mem_cons.1 hmember with heq | hmethod
    · rw [heq]
      refine ⟨?_, bodyWithin_entryConstructor trivial⟩
      intro type htype
      obtain rfl := List.mem_singleton.1 htype
      exact mem_variablesIn_entryOf rfl (.inl rfl)
    · have hkind := entryMethod_of_mem hmethod
      refine ⟨mentionsOnly_signature_of_entryMethod hparams hparsers hkind, ?_⟩
      refine hkind.bodyWithin (fun _ _ => trivial) ?_ trivial (fun _ => trivial) ?_
      · intro name
        exact TypeExpr.mentionsOnly_named.2 (by simp)
      · intro hinstance
        exact ⟨trivial, trivial, mem_variablesIn_entryOf hinstance (.inr rfl)⟩

end EntryClass

/-! ### The extensions -/

section Extensions

variable {config : Config} {registry : Registry}

/-- The signature of an extension mentions its own type parameters. -/
theorem mentionsOnly_signature_of_extensionMethod
    (hparsers : ∀ entry ∈ registry.parsers, entry.2.WellScopedParser) {member : Java.Member}
    (h : ExtensionMethod registry member) :
    ∀ type ∈ member.signatureTypes, type.MentionsOnly (typeParamNames member.typeParams) := by
  cases h with
  | subclassing hentry hproduct =>
      have hdecl := hparsers _ hentry
      exact mentionsOnly_signature_extension _ _ hdecl.toWellScoped (hdecl.product _ hproduct)
        (fun _ hmem => absurd hmem List.not_mem_nil) (fun _ hmem => absurd hmem List.not_mem_nil)
  | @plain aliasName decl product ctor hentry hproduct hctor =>
      have hdecl := hparsers _ hentry
      exact mentionsOnly_signature_extension _ _ hdecl.toWellScoped (hdecl.product _ hproduct)
        (hdecl.params ctor hctor) (hdecl.throws ctor hctor)

theorem wellScoped_extensionsOf
    (hparsers : ∀ entry ∈ registry.parsers, entry.2.WellScopedParser) :
    (extensionsOf config registry).WellScoped where
  superclass := nofun
  bounds := fun _ hmem => absurd hmem List.not_mem_nil
  fields := fun _ hmem => absurd hmem List.not_mem_nil
  members := by
    intro member hmember
    have hown := (extensionsOf config registry).typeParamNames_subset_variablesIn member
    rw [members_extensionsOf] at hmember
    rcases List.mem_cons.1 hmember with heq | hmethod
    · rw [heq]
      exact ⟨fun _ hmem => absurd hmem List.not_mem_nil, trivial⟩
    · have hkind := extensionMethod_of_mem hmethod
      constructor
      · intro type htype
        exact (mentionsOnly_signature_of_extensionMethod hparsers hkind type htype).mono hown
      · refine hkind.bodyWithin (fun _ _ => trivial) ?_ ?_
        · intro name
          exact TypeExpr.mentionsOnly_named.2 (by simp)
        · intro decl heq
          have hself := decl.mentionsOnly_selfType
          rw [← heq] at hself
          exact hself.mono hown

end Extensions

/-! ### All classes -/

namespace Session

variable {session : Session} {round : Round} {classes : List ClassDecl}

/-- **Type variables in generated code are declared.** Let a round generate classes from builders
and parsers that mention their own type parameters only, and in the methods of a builder those of
the method. Then in every class, a static member mentions its own type parameters only, an instance
member these and those of the class, be it in the signature or in the body, and the superclass, the
bounds and the fields mention those of the class. -/
theorem wellScoped_of_generated (h : session.outcomeOf round = .generated classes)
    (hbuilders : ∀ entry ∈ round.builders, entry.2.WellScopedBuilder)
    (hparsers : ∀ entry ∈ round.parsers, entry.2.WellScopedParser) :
    ∀ generated ∈ classes, generated.WellScoped := by
  obtain ⟨-, heq⟩ := eq_classesOf_of_outcomeOf h
  intro generated hmem
  rw [heq, mem_classesOf_iff] at hmem
  rcases hmem with ⟨entry, hentry, hwrapper⟩ | hentryClass | hextensions
  · rw [hwrapper]
    exact wellScoped_wrapper (hbuilders entry hentry)
  · rw [hentryClass]
    exact wellScoped_entryOf (fun entry hentry => (hbuilders entry hentry).toWellScoped) hparsers
  · rw [hextensions]
    exact wellScoped_extensionsOf hparsers

/-- A builder of lists, with a method that has a type parameter of its own. -/
def listBuilder : TypeDecl :=
  { name := "com.example.ListParam"
    modifiers := { isPublic := true }
    typeParams :=
      [{ name := "T", bounds := [.named "java.lang.Comparable" [.variable "T"]] }]
    superclass := some (.ofLibrary .abstractParam [])
    members :=
      [.constructor
        (publicConstructor
          [{ name := "url", type := .ofLibrary .string [] },
            { name := "first", type := .variable "T" }]),
        .method
          { name := "addAll"
            modifiers := { isPublic := true }
            typeParams := [{ name := "C", bounds := [.ofLibrary .list [.variable "T"]] }]
            params := [{ name := "items", type := .variable "C" }]
            returnType := .named "com.example.ListParam" [.variable "T"] }]
    annotation := some (.param "list") }

/-- A round with this builder and with a parser that has a type parameter too. -/
def genericRound : Round :=
  { types := [listBuilder, pageParser [tokenConstructor, mixedConstructor] (.variable "T")] }

theorem outcomeOf_genericRound :
    ({} : Session).outcomeOf genericRound = .generated (classesOf {} genericRound.registry) := by
  have hfailures : genericRound.failures {} = [] := by
    refine Round.failures_eq_nil_of_no_fields rfl ?_
    intro decl hdecl category hcategory
    rcases List.mem_pair.1 hdecl with rfl | rfl <;> obtain rfl := Option.some.inj hcategory
    · exact genericRound.typeError?_param_eq_none rfl rfl rfl rfl rfl (by decide)
    · exact Round.typeError?_pageParser {} genericRound (by decide)
  exact outcomeOf_of_not_clashes {} hfailures
    (not_clashes_of_no_wrappers (by decide) (by decide))

theorem wellScoped_of_generated_genericRound :
    (∀ entry ∈ genericRound.builders, entry.2.WellScopedBuilder) ∧
      (∀ entry ∈ genericRound.parsers, entry.2.WellScopedParser) ∧
      ∃ classes, ({} : Session).outcomeOf genericRound = .generated classes ∧
        ∀ generated ∈ classes, generated.WellScoped := by
  have hbuilders : genericRound.builders = [("list", listBuilder)] := by decide
  have hparsers : genericRound.parsers =
      [("Page", pageParser [tokenConstructor, mixedConstructor] (.variable "T"))] := by
    decide
  have hb : ∀ entry ∈ genericRound.builders, entry.2.WellScopedBuilder := by
    rw [hbuilders, List.forall_mem_singleton]
    exact { bounds := by decide, params := by decide, throws := by decide, methods := by decide }
  have hp : ∀ entry ∈ genericRound.parsers, entry.2.WellScopedParser := by
    rw [hparsers, List.forall_mem_singleton]
    refine { bounds := by decide, params := by decide, throws := by decide, product := ?_ }
    intro type htype
    rw [product?_pageParser] at htype
    obtain rfl := Option.some.inj htype
    decide
  exact ⟨hb, hp, _, outcomeOf_genericRound, wellScoped_of_generated outcomeOf_genericRound hb hp⟩

end Session

end FluentHttp
