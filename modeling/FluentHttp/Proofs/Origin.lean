import FluentHttp.Java.Imports
import FluentHttp.Proofs.WellScoped

/-!
# FluentHttp.Proofs.Origin

Where the classes come from that generated code mentions.

A class in generated code is one that a declaration of the round mentions, one of the generated
package, or one of a fixed list (`Origin`, `Session.origin_of_generated`). What is proved for the
classes of a single wrapper, entry class or list of extensions is proved for every property that the
classes of the declarations, the generated ones and the fixed ones have.
-/

namespace FluentHttp

/-! ### The classes that declarations mention -/

/-- The qualified names of the classes in the declaration of a class. -/
def TypeDecl.classNames (decl : TypeDecl) : List String :=
  decl.name :: TypeExpr.listClassNames decl.mentionedTypes

/-- The qualified names of the classes in the declaration of a field. -/
def FieldDecl.classNames (field : FieldDecl) : List String :=
  field.owner :: field.type.classNames

/-- The qualified names of the classes in a round. -/
def Round.classNames (round : Round) : List String :=
  round.types.flatMap TypeDecl.classNames ++ round.fields.flatMap FieldDecl.classNames

/-! ### Types -/

variable {p : String → Prop}

namespace TypeExpr

/-- All classes that a type mentions have a property. -/
def NamesOnly (p : String → Prop) (type : TypeExpr) : Prop :=
  ∀ name ∈ type.classNames, p name

theorem forall_mem_listClassNames {types : List TypeExpr} :
    (∀ name ∈ listClassNames types, p name) ↔ ∀ type ∈ types, type.NamesOnly p := by
  induction types with
  | nil => simp [listClassNames]
  | cons type rest ih =>
      rw [listClassNames, List.forall_mem_append, ih, List.forall_mem_cons]
      rfl

theorem forall_mem_optionClassNames {type : Option TypeExpr} :
    (∀ name ∈ optionClassNames type, p name) ↔ ∀ given ∈ type, given.NamesOnly p := by
  cases type with
  | none => simp [optionClassNames]
  | some type => simp [optionClassNames, NamesOnly]

theorem namesOnly_named {name : String} {args : List TypeExpr} :
    (named name args).NamesOnly p ↔ p name ∧ ∀ arg ∈ args, arg.NamesOnly p := by
  rw [NamesOnly, classNames, List.forall_mem_cons, forall_mem_listClassNames]

theorem namesOnly_variable {name : String} : (TypeExpr.variable name).NamesOnly p :=
  List.forall_mem_nil _

theorem namesOnly_raw {name : String} : (named name []).NamesOnly p ↔ p name := by
  rw [namesOnly_named, and_iff_left (List.forall_mem_nil _)]

/-- A class applied to type variables mentions itself only. -/
theorem namesOnly_applied {name : String} {typeParams : List TypeParam} :
    (named name (typeParams.map TypeParam.toVariable)).NamesOnly p ↔ p name := by
  rw [namesOnly_named, and_iff_left_iff_imp, List.forall_mem_map]
  exact fun _ _ _ => namesOnly_variable

end TypeExpr

/-- A declaration mentions only classes that have a property, and is of one. -/
structure TypeDecl.NamesOnly (p : String → Prop) (decl : TypeDecl) : Prop where
  name : p decl.name
  types : ∀ type ∈ decl.mentionedTypes, type.NamesOnly p

namespace TypeDecl

variable {decl : TypeDecl}

theorem namesOnly_iff : decl.NamesOnly p ↔ ∀ name ∈ decl.classNames, p name := by
  rw [classNames, List.forall_mem_cons, TypeExpr.forall_mem_listClassNames]
  exact ⟨fun h => ⟨h.name, h.types⟩, fun h => ⟨h.1, h.2⟩⟩

theorem NamesOnly.bounds (h : decl.NamesOnly p) :
    ∀ typeParam ∈ decl.typeParams, ∀ bound ∈ typeParam.bounds, bound.NamesOnly p := by
  intro typeParam htypeParam bound hbound
  refine h.types bound ?_
  simp only [mentionedTypes, List.mem_append, List.mem_flatMap]
  exact .inl (.inl (.inl ⟨typeParam, htypeParam, hbound⟩))

theorem NamesOnly.member (h : decl.NamesOnly p) {member : Member}
    (hmember : member ∈ decl.members) :
    ∀ type ∈ member.signatureTypes, type.NamesOnly p := by
  intro type htype
  refine h.types type ?_
  simp only [mentionedTypes, List.mem_append, List.mem_flatMap]
  exact .inl (.inr ⟨member, hmember, htype⟩)

theorem NamesOnly.wrapper (h : decl.NamesOnly p) : ∀ type ∈ decl.wrappers, type.NamesOnly p :=
  fun type htype => h.types type (List.mem_append_right _ htype)

theorem NamesOnly.method (h : decl.NamesOnly p) {method : MethodDecl}
    (hmethod : method ∈ decl.methods) : ∀ type ∈ method.signatureTypes, type.NamesOnly p := by
  obtain ⟨member, hmember, heq⟩ := List.mem_filterMap.1 hmethod
  cases member with
  | method declared =>
      obtain rfl := Option.some.inj heq
      exact h.member hmember
  | constructor _ => cases heq

theorem NamesOnly.constructor (h : decl.NamesOnly p) {ctor : ConstructorDecl}
    (hctor : ctor ∈ decl.publicConstructors) :
    ∀ type ∈ ctor.signatureTypes, type.NamesOnly p := by
  obtain ⟨member, hmember, heq⟩ := List.mem_filterMap.1 (List.mem_filter.1 hctor).1
  cases member with
  | constructor declared =>
      obtain rfl := Option.some.inj heq
      exact h.member hmember
  | method _ => cases heq

theorem NamesOnly.params (h : decl.NamesOnly p) {ctor : ConstructorDecl}
    (hctor : ctor ∈ decl.publicConstructors) : ∀ param ∈ ctor.params, param.type.NamesOnly p :=
  fun _ hparam => h.constructor hctor _ (List.mem_append_left _ (List.mem_map_of_mem hparam))

theorem NamesOnly.throws (h : decl.NamesOnly p) {ctor : ConstructorDecl}
    (hctor : ctor ∈ decl.publicConstructors) : ∀ type ∈ ctor.throws, type.NamesOnly p :=
  fun type htype => h.constructor hctor type (List.mem_append_right _ htype)

/-- What a parser parses is the result of one of its methods. -/
theorem NamesOnly.product (h : decl.NamesOnly p) {product : TypeExpr}
    (hproduct : decl.product? = some product) : product.NamesOnly p := by
  obtain ⟨method, hfind, rfl⟩ := Option.map_eq_some_iff.1 hproduct
  refine h.method (List.mem_of_find?_eq_some hfind) _ ?_
  simp [MethodDecl.signatureTypes]

end TypeDecl

/-! ### Code -/

namespace Java

theorem Expr.listClassNames_eq_nil {exprs : List Expr} (h : ∀ expr ∈ exprs, expr.classNames = []) :
    Expr.listClassNames exprs = [] := by
  induction exprs with
  | nil => rfl
  | cons expr rest ih =>
      obtain ⟨hexpr, hrest⟩ := List.forall_mem_cons.1 h
      rw [listClassNames, hexpr, ih hrest, List.nil_append]

theorem Expr.listClassNames_variables (params : List Parameter) :
    Expr.listClassNames (params.map (.variable ·.name)) = [] :=
  listClassNames_eq_nil (List.forall_mem_map.2 fun _ _ => rfl)

theorem Expr.forall_mem_listClassNames {exprs : List Expr} :
    (∀ name ∈ Expr.listClassNames exprs, p name) ↔
      ∀ expr ∈ exprs, ∀ name ∈ expr.classNames, p name := by
  induction exprs with
  | nil => simp [listClassNames]
  | cons expr rest ih =>
      rw [listClassNames, List.forall_mem_append, ih, List.forall_mem_cons]

theorem Stmt.forall_mem_listClassNames {body : List Stmt} :
    (∀ name ∈ Stmt.listClassNames body, p name) ↔
      ∀ stmt ∈ body, ∀ name ∈ stmt.classNames, p name := by
  induction body with
  | nil => simp [listClassNames]
  | cons stmt rest ih =>
      rw [listClassNames, List.forall_mem_append, ih, List.forall_mem_cons]

/-- A member mentions only classes that have a property. -/
structure Member.NamesOnly (p : String → Prop) (member : Member) : Prop where
  signature : ∀ type ∈ member.signatureTypes, type.NamesOnly p
  body : ∀ name ∈ Stmt.listClassNames member.body, p name

theorem Member.NamesOnly.forall_mem {member : Member} (h : member.NamesOnly p) :
    ∀ name ∈ member.classNames, p name := by
  obtain ⟨hbounds, hparams, hreturn, hthrows⟩ := Member.forall_mem_signatureTypes.1 h.signature
  simp only [classNames, List.forall_mem_append, List.forall_mem_flatMap]
  refine ⟨⟨⟨⟨fun typeParam hmem => ?_, ?_⟩, hparams⟩, ?_⟩, h.body⟩
  · exact TypeExpr.forall_mem_listClassNames.2 (hbounds typeParam hmem)
  · exact TypeExpr.forall_mem_optionClassNames.2 hreturn
  · exact TypeExpr.forall_mem_listClassNames.2 hthrows

/-- A class mentions only classes that have a property. -/
structure ClassDecl.NamesOnly (p : String → Prop) (decl : ClassDecl) : Prop where
  superclass : ∀ type ∈ decl.superclass, type.NamesOnly p
  bounds : ∀ typeParam ∈ decl.typeParams, ∀ bound ∈ typeParam.bounds, bound.NamesOnly p
  fields : ∀ field ∈ decl.fields, field.type.NamesOnly p
  members : ∀ member ∈ decl.members, member.NamesOnly p

theorem ClassDecl.NamesOnly.forall_mem {decl : ClassDecl} (h : decl.NamesOnly p) :
    ∀ name ∈ decl.classNames, p name := by
  simp only [classNames, List.forall_mem_append, List.forall_mem_flatMap]
  refine ⟨⟨⟨fun typeParam hmem => ?_, ?_⟩, h.fields⟩, ?_⟩
  · exact TypeExpr.forall_mem_listClassNames.2 (h.bounds typeParam hmem)
  · exact TypeExpr.forall_mem_optionClassNames.2 h.superclass
  · exact fun member hmember => (h.members member hmember).forall_mem

end Java

open Api Java

/-! ### Generated and fixed classes -/

/-- The classes that generated code mentions whatever is declared, and those it may mention because
it knows them by name. -/
def suppliedNames : List String :=
  LibraryType.all.map LibraryType.qualifiedName ++
    ["java.lang.IllegalArgumentException", "rxhttp.BaseRxHttp", "rxhttp.IAwait", "rxhttp.IRxHttp",
      "rxhttp.IRxHttpKt", "rxhttp.wrapper.entity.ParameterizedTypeImpl",
      "rxhttp.wrapper.utils.BuildUtil", "io.reactivex.Observable",
      "io.reactivex.rxjava3.core.Observable"]

/-- The generated classes, the bases of wrappers, and the fixed classes have a property. The
generated classes have a package, so there is only one way to say where they are. -/
structure Covers (config : Config) (p : String → Prop) : Prop where
  package_ne_empty : config.package ≠ ""
  supplied : ∀ name ∈ suppliedNames, p name
  generated : ∀ name, p (config.qualified (entryName ++ name))

theorem qualifiedName_mem_suppliedNames (library : LibraryType) :
    library.qualifiedName ∈ suppliedNames :=
  List.mem_append_left _ (List.mem_map_of_mem (by cases library <;> decide))

theorem Covers.library {config : Config} (h : Covers config p) (library : LibraryType) :
    p library.qualifiedName :=
  h.supplied _ (qualifiedName_mem_suppliedNames library)

theorem Covers.observable {config : Config} (h : Covers config p) {observable : String}
    (hobservable : config.reactive.observable? = some observable) : p observable := by
  refine h.supplied _ ?_
  cases hmode : config.reactive with
  | disabled => simp [hmode, Reactive.observable?] at hobservable
  | rxJava2 | rxJava3 =>
      rw [hmode] at hobservable
      obtain rfl := Option.some.inj hobservable
      decide

theorem Covers.qualifiedName {config : Config} (h : Covers config p) {generated : ClassDecl}
    {simple : String} (hpackage : generated.package = config.package)
    (hname : generated.name = entryName ++ simple) : p generated.qualifiedName := by
  rw [qualifiedName_eq_qualified h.package_ne_empty hpackage, hname]
  exact h.generated simple

/-! ### Wrappers -/

section Wrapper

variable {config : Config} {decl : TypeDecl}

theorem TypeDecl.NamesOnly.selfType (h : decl.NamesOnly p) : decl.selfType.NamesOnly p :=
  TypeExpr.namesOnly_applied.2 h.name

theorem Covers.wrapperHead (h : Covers config p) (decl : TypeDecl) :
    p (wrapperHead config decl).qualifiedName :=
  h.qualifiedName rfl rfl

theorem Covers.wrapperType (h : Covers config p) (decl : TypeDecl) :
    (Api.wrapperHead config decl).selfType.NamesOnly p :=
  TypeExpr.namesOnly_applied.2 (h.wrapperHead decl)

/-- A method of a wrapper casts the builder at most. -/
theorem namesOnly_body_wrapperMethod (h : decl.NamesOnly p) (method : MethodDecl) :
    ∀ name ∈ Stmt.listClassNames (wrapperMethod config decl method).body, p name := by
  unfold wrapperMethod
  generalize (wrapperHead config decl).selfType = wrapper
  have hdelegate : ∀ name ∈ (baseOf config decl wrapper).delegate.classNames, p name := by
    rcases delegate_baseOf_cases config decl wrapper with heq | heq
    · rw [heq]
      exact List.forall_mem_nil _
    · rw [heq, Expr.classNames, List.forall_mem_append]
      exact ⟨h.selfType, List.forall_mem_nil _⟩
  -- Whatever becomes of the result, the delegate is the only expression that can name a class.
  rcases delegatingMethod_cases decl wrapper (baseOf config decl wrapper).delegate method with
    ⟨-, -, hbody⟩ | ⟨-, -, hbody⟩ | ⟨-, -, hbody⟩
  all_goals
    rw [hbody]
    simpa [Stmt.listClassNames, Stmt.classNames, passingCall, Expr.classNames,
      Expr.listClassNames_variables] using hdelegate

theorem namesOnly_wrapper (hcovers : Covers config p) (h : decl.NamesOnly p) :
    (wrapper config decl).NamesOnly p where
  superclass := by
    intro type htype
    obtain ⟨args, hsuperclass, hargs⟩ := superclass_wrapper config decl
    rw [hsuperclass] at htype
    obtain rfl := Option.some.inj htype
    refine TypeExpr.namesOnly_named.2 ⟨hcovers.generated _, fun arg harg => ?_⟩
    rcases hargs arg harg with rfl | rfl
    · exact h.selfType
    · exact hcovers.wrapperType decl
  bounds := h.bounds
  fields := fun _ hmem => absurd hmem List.not_mem_nil
  members := by
    intro member hmember
    cases wrapperMember_of_mem hmember with
    | construct =>
        refine ⟨fun type htype => ?_, List.forall_mem_nil _⟩
        obtain rfl := List.mem_singleton.1 htype
        exact h.selfType
    | @delegate method hmethod =>
        refine ⟨fun type htype => ?_, namesOnly_body_wrapperMethod h method⟩
        rcases mem_signatureTypes_wrapperMethod htype with hown | rfl
        · exact h.method (List.mem_filter.1 hmethod).1 type hown
        · exact hcovers.wrapperType decl

end Wrapper

/-! ### Accessors -/

section Accessors

variable {config : Config} {decl : TypeDecl}

/-- A member with the type parameters of a declaration has their bounds in its signature. -/
theorem TypeDecl.NamesOnly.signature (h : decl.NamesOnly p) {member : Java.Member}
    (htypeParams : member.typeParams = decl.typeParams)
    (hparams : ∀ param ∈ member.params, param.type.NamesOnly p)
    (hreturn : ∀ type ∈ member.returnType, type.NamesOnly p)
    (hthrows : ∀ type ∈ member.throws, type.NamesOnly p) :
    ∀ type ∈ member.signatureTypes, type.NamesOnly p := by
  rw [Member.forall_mem_signatureTypes, htypeParams]
  exact ⟨h.bounds, hparams, hreturn, hthrows⟩

theorem Covers.classToken (h : Covers config p) (typeParam : TypeParam) :
    (classToken typeParam).NamesOnly p :=
  TypeExpr.namesOnly_named.2
    ⟨h.library .classToken, List.forall_mem_singleton.2 TypeExpr.namesOnly_variable⟩

/-- An accessor takes class tokens, and what the constructor takes. -/
theorem namesOnly_takenParams (hcovers : Covers config p) {typeParams : List TypeParam}
    {params : List Parameter} (h : ∀ param ∈ params, param.type.NamesOnly p) :
    ∀ taken ∈ takenParams typeParams params, taken.type.NamesOnly p := by
  intro taken htaken
  obtain ⟨⟨param, role⟩, hrole, htaken⟩ := List.mem_flatMap.1 htaken
  cases role with
  | tokenArray =>
      obtain ⟨typeParam, -, rfl⟩ := List.mem_map.1 htaken
      exact hcovers.classToken typeParam
  | token typeParam =>
      obtain rfl := List.mem_singleton.1 htaken
      exact hcovers.classToken typeParam
  | plain =>
      obtain rfl := List.mem_singleton.1 htaken
      have hparam : taken ∈ (roles typeParams params).map Prod.fst := List.mem_map_of_mem hrole
      rw [map_fst_roles] at hparam
      exact h taken hparam

/-- An array of type tokens is all that arguments of a parser mention. -/
theorem namesOnly_passedArgs (hcovers : Covers config p) {typeParams : List TypeParam}
    {params : List Parameter} {token : String → Expr}
    (htoken : ∀ name, (token name).classNames = []) :
    ∀ name ∈ Expr.listClassNames (passedArgs typeParams token params), p name := by
  rw [Expr.forall_mem_listClassNames, passedArgs, List.forall_mem_map]
  rintro ⟨param, role⟩ -
  cases role with
  | tokenArray =>
      have htokens : Expr.listClassNames
          (typeParams.map fun typeParam => token (tokenParam typeParam).name) = [] :=
        Expr.listClassNames_eq_nil (List.forall_mem_map.2 fun _ _ => htoken _)
      simp only [Role.passed, Expr.classNames, htokens, List.append_nil]
      exact TypeExpr.namesOnly_raw.2 (hcovers.library .reflectType)
  | token _ =>
      simp only [Role.passed, htoken]
      exact List.forall_mem_nil _
  | plain => exact List.forall_mem_nil _

/-- A member that parses mentions the parser, besides its locals. -/
theorem Api.Parses.namesOnly_body (hcovers : Covers config p) (hdecl : p decl.name)
    {ctor : ConstructorDecl} {locals : List Stmt} {token : String → Expr} {member : Java.Member}
    (h : Parses decl ctor locals token member)
    (hlocals : ∀ stmt ∈ locals, ∀ name ∈ stmt.classNames, p name)
    (htoken : ∀ name, (token name).classNames = []) :
    ∀ name ∈ Stmt.listClassNames member.body, p name := by
  rw [h.body, Stmt.forall_mem_listClassNames, List.forall_mem_append, List.forall_mem_singleton]
  refine ⟨hlocals, ?_⟩
  have hargs := @namesOnly_passedArgs _ _ hcovers decl.typeParams ctor.params _ htoken
  simpa [Stmt.classNames, Expr.classNames, Expr.listClassNames, ClassRef.classNames,
    TypeDecl.classRef, TypeExpr.listClassNames] using ⟨hdecl, hargs⟩

/-- The containers of a parser are lists and the classes that it names. -/
theorem namesOnly_accessorContainers (hcovers : Covers config p) (h : decl.NamesOnly p)
    {container : ClassRef} (hmem : container ∈ accessorContainers decl decl.wrappers) :
    p container.name := by
  unfold accessorContainers at hmem
  split at hmem
  · obtain ⟨name, hname, rfl⟩ := List.mem_map.1 hmem
    rcases List.mem_cons.1 (List.mem_eraseDups.1 hname) with rfl | hname
    · exact hcovers.library .list
    · obtain ⟨wrapper, hwrapper, hclass⟩ := List.mem_filterMap.1 hname
      obtain ⟨ref, href, rfl⟩ := Option.map_eq_some_iff.1 hclass
      -- A wrapper that is no class, such as an array, is no container either.
      have htype := h.wrapper wrapper hwrapper
      cases wrapper <;> cases href
      exact (TypeExpr.namesOnly_named.1 htype).1
  · cases hmem

theorem namesOnly_inContainer {container : ClassRef} (hcontainer : p container.name)
    {product : TypeExpr} (h : product.NamesOnly p) :
    (inContainer container product).NamesOnly p := by
  rcases inContainer_cases container product with ⟨name, args, heq, -, hresult⟩ | ⟨-, hresult⟩
  · rw [heq, TypeExpr.namesOnly_named] at h
    rw [hresult, TypeExpr.namesOnly_named, List.forall_mem_map]
    refine ⟨h.1, fun arg harg => ?_⟩
    exact TypeExpr.namesOnly_named.2 ⟨hcontainer, List.forall_mem_singleton.2 (h.2 arg harg)⟩
  · rw [hresult]
    exact TypeExpr.namesOnly_named.2 ⟨hcontainer, List.forall_mem_singleton.2 h⟩

theorem namesOnly_containerToken (hcovers : Covers config p) {container : ClassRef}
    (hcontainer : p container.name) (hargs : container.args = []) (token : String) :
    ∀ name ∈ (containerToken container token).classNames, p name := by
  have hnames : (containerToken container token).classNames =
      [LibraryType.reflectType.qualifiedName, parameterizedType.name, container.name] := by
    simp [containerToken, Stmt.classNames, Expr.classNames, Expr.listClassNames,
      ClassRef.classNames, ClassRef.toType, hargs, TypeExpr.classNames, TypeExpr.listClassNames,
      TypeExpr.ofLibrary, ClassRef.ofLibrary, parameterizedType]
  rw [hnames]
  simp only [List.forall_mem_cons, List.not_mem_nil, false_implies, implies_true, and_true]
  exact ⟨hcovers.library .reflectType, hcovers.supplied _ (by decide), hcontainer⟩

/-- The signature of an accessor mentions what the constructor takes and throws, and the element.
-/
theorem namesOnly_signature_accessorMember (hcovers : Covers config p) (h : decl.NamesOnly p)
    {observable : String} (hobservable : p observable) (name : String) {ctor : ConstructorDecl}
    (hctor : ctor ∈ decl.publicConstructors) {element : TypeExpr} (helement : element.NamesOnly p)
    (body : List Stmt) :
    ∀ type ∈ (accessorMember observable name decl ctor element body).signatureTypes,
      type.NamesOnly p := by
  refine h.signature rfl ?_ ?_ (h.throws hctor)
  · rw [accessorMember, flatMap_params_slotsOf]
    exact namesOnly_takenParams hcovers (h.params hctor)
  · intro type htype
    obtain rfl := Option.some.inj htype
    exact TypeExpr.namesOnly_named.2 ⟨hobservable, List.forall_mem_singleton.2 helement⟩

end Accessors

/-! ### The entry class -/

section EntryClass

variable {config : Config} {registry : Registry}

/-- The classes of the fields of a registry have a property. -/
structure Registry.OwnersHave (p : String → Prop) (registry : Registry) : Prop where
  converters : ∀ field ∈ registry.converters, p field.owner
  clients : ∀ field ∈ registry.clients, p field.owner
  domains : ∀ field ∈ registry.domains, p field.owner
  defaultDomain : ∀ field ∈ registry.defaultDomain, p field.owner

theorem namesOnly_setter {name : String} {body : List Stmt}
    (h : ∀ name ∈ Stmt.listClassNames (setter name body).body, p name) :
    (setter name body).NamesOnly p where
  signature := by
    intro type htype
    obtain rfl := List.mem_singleton.1 htype
    exact TypeExpr.namesOnly_variable
  body := h

theorem listClassNames_factoryArgs (ctor : ConstructorDecl) :
    Expr.listClassNames (factoryArgs ctor) = [] := by
  unfold factoryArgs
  cases ctor.params with
  | nil => rfl
  | cons first rest =>
      refine Expr.listClassNames_eq_nil (List.forall_mem_cons.2 ⟨?_, ?_⟩)
      · split <;> rfl
      · exact List.forall_mem_map.2 fun _ _ => rfl

theorem namesOnly_factory (hcovers : Covers config p) {decl : TypeDecl} (h : decl.NamesOnly p)
    (aliasName : String) {ctor : ConstructorDecl} (hctor : ctor ∈ decl.publicConstructors) :
    (factory aliasName decl (wrapperHead config decl) ctor).NamesOnly p where
  signature := by
    refine h.signature rfl ?_ ?_ (h.throws hctor)
    · intro param hparam
      have hcases : param ∈ ctor.params ∨ param = formatArgs := by
        have hmem : param ∈ factoryParams ctor := hparam
        unfold factoryParams at hmem
        split at hmem
        · simpa using hmem
        · exact .inl hmem
      rcases hcases with hown | rfl
      · exact h.params hctor param hown
      · exact TypeExpr.namesOnly_raw.2 (hcovers.library .object)
    · intro type htype
      obtain rfl := Option.some.inj htype
      exact hcovers.wrapperType decl
  body := by
    have hnames : Stmt.listClassNames
        (factory aliasName decl (wrapperHead config decl) ctor).body =
          [(wrapperHead config decl).qualifiedName, decl.name] := by
      simp [factory, Stmt.listClassNames, Stmt.classNames, Expr.classNames, Expr.listClassNames,
        ClassRef.classNames, ClassDecl.classRef, TypeDecl.classRef, TypeExpr.listClassNames,
        listClassNames_factoryArgs]
    rw [hnames]
    simp [hcovers.wrapperHead decl, h.name]

/-- A method of the entry class mentions what its declaration does, besides fixed and generated
classes. -/
theorem namesOnly_of_entryMethod (hcovers : Covers config p)
    (hparams : ∀ entry ∈ registry.params, entry.2.NamesOnly p)
    (hparsers : ∀ entry ∈ registry.parsers, entry.2.NamesOnly p) (howners : registry.OwnersHave p)
    {member : Java.Member} (h : EntryMethod config registry member) : member.NamesOnly p := by
  have hstring := hcovers.library .string
  have hfailure : p "java.lang.IllegalArgumentException" := hcovers.supplied _ (by decide)
  have htext : stringType.NamesOnly p := TypeExpr.namesOnly_raw.2 hstring
  cases h with
  | format =>
      refine ⟨?_, List.forall_mem_singleton.2 hstring⟩
      have hargs : formatArgs.type.NamesOnly p :=
        TypeExpr.namesOnly_raw.2 (hcovers.library .object)
      exact Member.forall_mem_signatureTypes.2 ⟨List.forall_mem_nil _,
        by simp [formatMethod, htext, hargs], by simpa [formatMethod] using htext,
        List.forall_mem_nil _⟩
  | factory hentry hctor => exact namesOnly_factory hcovers (hparams _ hentry) _ hctor
  | @converter field hfield =>
      have howner := howners.converters field hfield
      have hnames : Stmt.listClassNames (converterSetter field).body =
          [field.owner, "java.lang.IllegalArgumentException",
            LibraryType.converter.qualifiedName, field.owner] := rfl
      have hbody : ∀ name ∈ Stmt.listClassNames (converterSetter field).body, p name := by
        simp [hnames, howner, hfailure, hcovers.library .converter]
      exact namesOnly_setter hbody
  | @client field hfield =>
      have howner := howners.clients field hfield
      have hnames : Stmt.listClassNames (clientSetter field).body =
          [field.owner, "java.lang.IllegalArgumentException", field.owner] := rfl
      have hbody : ∀ name ∈ Stmt.listClassNames (clientSetter field).body, p name := by
        simp [hnames, howner, hfailure]
      exact namesOnly_setter hbody
  | @domain field hfield =>
      have howner := howners.domains field hfield
      have hnames : Stmt.listClassNames (domainSetter field).body =
          [LibraryType.string.qualifiedName, field.owner] := rfl
      have hbody : ∀ name ∈ Stmt.listClassNames (domainSetter field).body, p name := by
        simp [hnames, howner, hstring]
      exact namesOnly_setter hbody
  | @defaultDomain field hfield =>
      have howner := howners.defaultDomain field hfield
      have hnames : Stmt.listClassNames (defaultDomainMethod field).body =
          [LibraryType.string.qualifiedName, field.owner] := rfl
      refine ⟨fun type htype => ?_, by simp [hnames, howner, hstring]⟩
      have htype : type ∈ [TypeExpr.variable "P", TypeExpr.variable "P"] := htype
      obtain rfl : type = .variable "P" := by simpa using htype
      exact TypeExpr.namesOnly_variable
  | addDomain =>
      refine ⟨?_, List.forall_mem_singleton.2 (hcovers.supplied _ (by decide))⟩
      exact Member.forall_mem_signatureTypes.2 ⟨List.forall_mem_nil _,
        by simp [addDomainMethod, htext], by simpa [addDomainMethod] using htext,
        List.forall_mem_nil _⟩
  | @accessor aliasName observable decl product ctor hobservable hentry hproduct hctor =>
      have hdecl := hparsers _ hentry
      refine ⟨namesOnly_signature_accessorMember hcovers hdecl (hcovers.observable hobservable)
        ("as" ++ aliasName) hctor (hdecl.product hproduct) _, ?_⟩
      exact (parses_accessor observable ("as" ++ aliasName) decl product ctor).namesOnly_body
        hcovers hdecl.name (List.forall_mem_nil _) fun _ => rfl
  | @containerAccessor aliasName observable decl product ctor container hobservable hentry hproduct
      hctor hcontainer =>
      have hdecl := hparsers _ hentry
      have hname := namesOnly_accessorContainers hcovers hdecl hcontainer
      refine ⟨namesOnly_signature_accessorMember hcovers hdecl (hcovers.observable hobservable)
        ("as" ++ aliasName ++ container.simpleName) hctor
        (namesOnly_inContainer hname (hdecl.product hproduct)) _, ?_⟩
      have hparses :=
        parses_containerAccessor observable ("as" ++ aliasName) decl product ctor container
      refine hparses.namesOnly_body hcovers hdecl.name ?_ fun _ => rfl
      exact List.forall_mem_map.2 fun token _ => namesOnly_containerToken hcovers hname
        (args_eq_nil_of_mem_accessorContainers hcontainer) token

theorem namesOnly_entryOf (hcovers : Covers config p)
    (hparams : ∀ entry ∈ registry.params, entry.2.NamesOnly p)
    (hparsers : ∀ entry ∈ registry.parsers, entry.2.NamesOnly p)
    (howners : registry.OwnersHave p) : (entryOf config registry).NamesOnly p where
  superclass := by
    intro type htype
    obtain rfl := Option.some.inj htype
    exact TypeExpr.namesOnly_raw.2 (hcovers.supplied _ (by decide))
  bounds := by
    have hentry : p (entryHead config).qualifiedName :=
      hcovers.qualifiedName rfl String.append_empty.symm
    have hbase := hcovers.library .param
    simp [entryOf, entryClass, TypeExpr.namesOnly_named, TypeExpr.namesOnly_variable,
      TypeExpr.ofLibrary, ClassRef.ofLibrary, ClassRef.toType, selfVariable, hentry, hbase]
  fields := by
    have hclient := hcovers.library .okHttpClient
    simp [entryOf, entryClass, TypeExpr.namesOnly_named, TypeExpr.namesOnly_variable,
      TypeExpr.ofLibrary, ClassRef.ofLibrary, ClassRef.toType, hclient]
  members := by
    intro member hmember
    rw [members_entryOf] at hmember
    rcases List.mem_cons.1 hmember with rfl | hmethod
    · refine ⟨fun type htype => ?_, List.forall_mem_nil _⟩
      obtain rfl := List.mem_singleton.1 htype
      exact TypeExpr.namesOnly_variable
    · exact namesOnly_of_entryMethod hcovers hparams hparsers howners (entryMethod_of_mem hmethod)

end EntryClass

/-! ### The extensions -/

section Extensions

variable {config : Config} {registry : Registry}

theorem namesOnly_extension (hcovers : Covers config p) {decl : TypeDecl} (h : decl.NamesOnly p)
    (name : String) {product : TypeExpr} (hproduct : product.NamesOnly p) {ctor : ConstructorDecl}
    (hparams : ∀ param ∈ ctor.params, param.type.NamesOnly p)
    (hthrows : ∀ type ∈ ctor.throws, type.NamesOnly p) {parser : Expr}
    (hparser : ∀ name ∈ parser.classNames, p name) :
    (extension name decl product ctor parser).NamesOnly p where
  signature := by
    refine h.signature rfl ?_ ?_ hthrows
    · refine List.forall_mem_cons.2 ⟨?_, hparams⟩
      exact TypeExpr.namesOnly_raw.2 (hcovers.supplied _ (by decide))
    · intro type htype
      obtain rfl := Option.some.inj htype
      exact TypeExpr.namesOnly_named.2
        ⟨hcovers.supplied _ (by decide), List.forall_mem_singleton.2 hproduct⟩
  body := by
    have hhelper : p "rxhttp.IRxHttpKt" := hcovers.supplied _ (by decide)
    simpa [extension, Stmt.listClassNames, Stmt.classNames, Expr.classNames, Expr.listClassNames,
      ClassRef.classNames, TypeExpr.listClassNames] using ⟨hhelper, hparser⟩

theorem namesOnly_extensionsOf (hcovers : Covers config p)
    (hparsers : ∀ entry ∈ registry.parsers, entry.2.NamesOnly p) :
    (extensionsOf config registry).NamesOnly p where
  superclass := nofun
  bounds := fun _ hmem => absurd hmem List.not_mem_nil
  fields := fun _ hmem => absurd hmem List.not_mem_nil
  members := by
    intro member hmember
    rw [members_extensionsOf] at hmember
    rcases List.mem_cons.1 hmember with rfl | hmethod
    · exact ⟨List.forall_mem_nil _, List.forall_mem_nil _⟩
    · cases extensionMethod_of_mem hmethod with
      | subclassing hentry hproduct =>
          have hdecl := hparsers _ hentry
          refine namesOnly_extension hcovers hdecl _ (hdecl.product hproduct)
            (List.forall_mem_nil _) (List.forall_mem_nil _) ?_
          rw [Expr.classNames, Expr.listClassNames, List.append_nil]
          exact hdecl.selfType
      | @plain aliasName decl product ctor hentry hproduct hctor =>
          have hdecl := hparsers _ hentry
          refine namesOnly_extension hcovers hdecl _ (hdecl.product hproduct)
            (hdecl.params hctor) (hdecl.throws hctor) ?_
          rw [newParser, Expr.classNames, Expr.listClassNames_variables, List.append_nil]
          exact List.forall_mem_singleton.2 hdecl.name

end Extensions

/-! ### All classes -/

/-- Where a class comes from that generated code mentions. -/
inductive Origin (config : Config) (round : Round) : String → Prop where
  | declared {name : String} (h : name ∈ round.classNames) : Origin config round name
  | generated (name : String) : Origin config round (config.qualified (entryName ++ name))
  | supplied {name : String} (h : name ∈ suppliedNames) : Origin config round name

theorem covers_origin {config : Config} (h : config.package ≠ "") (round : Round) :
    Covers config (Origin config round) where
  package_ne_empty := h
  supplied := fun _ => .supplied
  generated := .generated

namespace Round

variable {config : Config} {round : Round} {category : Category}

theorem mem_types_of_mem_ofDecls {entry : String × TypeDecl}
    (h : entry ∈ AliasTable.ofDecls (round.annotatedTypes category)) : entry.2 ∈ round.types := by
  have hlast := List.mem_of_getLast? (AliasTable.mem_ofDecls_iff.1 h)
  exact (List.mem_filter.1 (List.mem_filter.1 hlast).1).1

theorem namesOnly_of_mem_types {decl : TypeDecl} (h : decl ∈ round.types) :
    decl.NamesOnly (Origin config round) :=
  TypeDecl.namesOnly_iff.2 fun _ hname =>
    .declared (List.mem_append_left _ (List.mem_flatMap.2 ⟨decl, h, hname⟩))

theorem origin_owner {field : FieldDecl} (h : field ∈ round.annotatedFields category) :
    Origin config round field.owner :=
  .declared (List.mem_append_right _
    (List.mem_flatMap.2 ⟨field, (List.mem_filter.1 h).1, List.mem_cons_self⟩))

theorem ownersHave_registry : round.registry.OwnersHave (Origin config round) where
  converters := fun _ => origin_owner
  clients := fun _ => origin_owner
  domains := fun _ => origin_owner
  defaultDomain := fun _ hfield => origin_owner (List.mem_of_head? hfield)

end Round

namespace Session

variable {session : Session} {round : Round} {classes : List ClassDecl}

/-- Every class that generated code mentions is one of the round, of the generated package, or a
fixed one. -/
theorem origin_of_generated (h : session.outcomeOf round = .generated classes)
    (hpackage : session.config.package ≠ "") :
    ∀ generated ∈ classes, ∀ name ∈ generated.classNames, Origin session.config round name := by
  obtain ⟨-, heq⟩ := eq_classesOf_of_outcomeOf h
  have hcovers := covers_origin hpackage round
  have hparams : ∀ entry ∈ round.registry.params, entry.2.NamesOnly (Origin session.config round) :=
    fun _ hentry => Round.namesOnly_of_mem_types (Round.mem_types_of_mem_ofDecls hentry)
  have hparsers :
      ∀ entry ∈ round.registry.parsers, entry.2.NamesOnly (Origin session.config round) :=
    fun _ hentry => Round.namesOnly_of_mem_types (Round.mem_types_of_mem_ofDecls hentry)
  intro generated hmem
  rw [heq, mem_classesOf_iff] at hmem
  rcases hmem with ⟨entry, hentry, rfl⟩ | rfl | rfl
  · exact (namesOnly_wrapper hcovers (hparams entry hentry)).forall_mem
  · exact (namesOnly_entryOf hcovers hparams hparsers Round.ownersHave_registry).forall_mem
  · exact (namesOnly_extensionsOf hcovers hparsers).forall_mem

end Session

end FluentHttp
