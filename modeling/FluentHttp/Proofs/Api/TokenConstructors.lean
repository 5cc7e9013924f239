import FluentHttp.Proofs.Api.Places

/-!
# FluentHttp.Proofs.Api.TokenConstructors

Which parsers have an accessor that takes a class token for each of their type parameters.

The contract of a generic parser asks for a constructor for type tokens that is not private, and
accessors are made for public constructors. So a parser whose only such constructor is protected or
package-private meets its contract and has no accessor at all
(`not_exists_takesClassTokens_protectedParser`). What decides is whether a public constructor
supplies the tokens (`exists_takesClassTokens_iff`), as a constructor for type tokens does if it is
public.
-/

namespace FluentHttp.Api

open Java

/-! ### Class tokens among the parameters of an accessor -/

/-- A parameter is a single type token. -/
def isSingleToken (param : Parameter) : Bool :=
  param.type.isLibrary .reflectType

theorem classToken_eq_iff {typeParam other : TypeParam} :
    classToken typeParam = classToken other ↔ typeParam.name = other.name := by
  simp [classToken, TypeExpr.ofLibrary, ClassRef.ofLibrary, ClassRef.toType, TypeParam.toVariable]

theorem type_ne_classToken_of_isTokenArray {param : Parameter} (h : isTokenArray param = true)
    (typeParam : TypeParam) : param.type ≠ classToken typeParam := by
  intro heq
  rw [isTokenArray, heq] at h
  cases h

theorem type_ne_classToken_of_isSingleToken {param : Parameter} (h : isSingleToken param = true)
    (typeParam : TypeParam) : param.type ≠ classToken typeParam := by
  intro heq
  have hlibrary : (classToken typeParam).library? = some .classToken :=
    TypeExpr.library?_ofLibrary .classToken _
  rw [isSingleToken, TypeExpr.isLibrary, heq, hlibrary] at h
  cases h

theorem slotTypes_cons (slot : Slot) (rest : List Slot) :
    slotTypes (slot :: rest) = slot.params.map (·.type) ++ slotTypes rest := by
  simp [slotTypes]

/-- Where the class tokens among the parameters of an accessor come from, while the type parameters
`unused` have no single token yet. -/
theorem classToken_mem_slotTypes_iff {typeParams unused : List TypeParam}
    {params : List Parameter} {typeParam : TypeParam} :
    classToken typeParam ∈ slotTypes (slots typeParams unused params) ↔
      (∃ param ∈ params, isTokenArray param = true) ∧
          classToken typeParam ∈ typeParams.map classToken ∨
        classToken typeParam ∈ (unused.take (params.countP isSingleToken)).map classToken ∨
          ∃ param ∈ params, param.type = classToken typeParam := by
  induction params generalizing unused with
  | nil => simp [slots]
  | cons param rest ih =>
      simp only [List.mem_cons, exists_eq_or_imp, List.countP_cons]
      rcases slots_cons_cases typeParams unused param rest with
        ⟨harray, hslots⟩ | ⟨next, later, rfl, harray, htoken, hslots⟩ | ⟨harray, hplain, hslots⟩
      · -- the array brings a class token for each type parameter
        have hsingle : isSingleToken param = false := Role.isLibrary_of_isTokenArray harray
        have htypes : (typeParams.map tokenParam).map (·.type) = typeParams.map classToken := by
          rw [List.map_map]
          rfl
        rw [hslots, slotTypes_cons, List.mem_append, ih, htypes]
        simp only [isTokenArray, harray, hsingle, type_ne_classToken_of_isTokenArray harray]
        simp only [Bool.false_eq_true, if_false, Nat.add_zero, false_or, true_or, true_and]
        tauto
      · -- one class token, for the type parameter whose turn it is
        rw [hslots, slotTypes_cons, List.mem_append, ih]
        simp only [isTokenArray, harray, isSingleToken, htoken,
          type_ne_classToken_of_isSingleToken htoken]
        simp only [Bool.false_eq_true, if_true, false_or, List.take_succ_cons, List.map_cons,
          List.map_nil, List.mem_cons, List.not_mem_nil, or_false]
        exact or_left_comm.trans (or_congr_right or_assoc.symm)
      · -- where a single token is passed on, no type parameter is left
        have htake : unused.take (rest.countP isSingleToken) =
            unused.take (rest.countP isSingleToken + if isSingleToken param then 1 else 0) := by
          rcases hplain with rfl | hlibrary
          · simp
          · rw [isSingleToken, hlibrary]
            rfl
        rw [hslots, slotTypes_cons, List.mem_append, ih, htake]
        simp only [isTokenArray, harray, Bool.false_eq_true, false_or, List.map_cons, List.map_nil,
          List.mem_singleton]
        rw [@eq_comm _ (classToken typeParam) param.type]
        exact or_left_comm.trans (or_congr_right or_left_comm)

/-! ### Accessors with all class tokens -/

/-- A constructor supplies the class token of a type parameter to its accessor: by an array of type
tokens, by a single type token whose turn comes with that type parameter, or by taking the class
token itself. -/
def Supplies (decl : TypeDecl) (ctor : ConstructorDecl) (typeParam : TypeParam) : Prop :=
  (∃ param ∈ ctor.params, isTokenArray param = true) ∨
    (∃ other ∈ decl.typeParams.take (ctor.params.countP isSingleToken),
      other.name = typeParam.name) ∨
    ∃ param ∈ ctor.params, param.type = classToken typeParam

/-- A member takes a class token for each type parameter of a parser. -/
def TakesClassTokens (decl : TypeDecl) (member : Java.Member) : Prop :=
  ∀ typeParam ∈ decl.typeParams, ∃ param ∈ member.params, param.type = classToken typeParam

/-- A member is an accessor for what a parser makes of a response, and not for a container of it. -/
structure IsBaseAccessor (config : Config) (aliasName : String) (decl : TypeDecl)
    (member : Java.Member) : Prop where
  name : member.name = "as" ++ aliasName
  returns : ∃ observable product, config.reactive.observable? = some observable ∧
    decl.product? = some product ∧ member.returnType = some (.named observable [product])

theorem takesClassTokens_iff {decl : TypeDecl} {ctor : ConstructorDecl} {member : Java.Member}
    (h : member.params = (slotsOf decl ctor).flatMap (·.params)) :
    TakesClassTokens decl member ↔ ∀ typeParam ∈ decl.typeParams, Supplies decl ctor typeParam := by
  refine forall₂_congr fun typeParam hmem => ?_
  have htaken : (∃ param ∈ member.params, param.type = classToken typeParam) ↔
      classToken typeParam ∈ slotTypes (slotsOf decl ctor) := by
    rw [h, slotTypes, List.mem_map]
  rw [htaken, slotsOf, classToken_mem_slotTypes_iff, Supplies]
  have hdeclared : classToken typeParam ∈ decl.typeParams.map classToken :=
    List.mem_map_of_mem hmem
  simp only [hdeclared, and_true, List.mem_map, classToken_eq_iff]

/-- The members that a constructor contributes all take the same parameters. -/
theorem params_of_mem_accessorsOf {observable name : String} {decl : TypeDecl} {product : TypeExpr}
    {refs : List ClassRef} {ctor : ConstructorDecl} {member : Java.Member}
    (h : member ∈ accessorsOf observable name decl product refs ctor) :
    member.params = (slotsOf decl ctor).flatMap (·.params) := by
  rcases List.mem_cons.1 h with rfl | hcontainer
  · rfl
  · split at hcontainer
    · obtain ⟨container, -, rfl⟩ := List.mem_map.1 hcontainer
      rfl
    · cases hcontainer

/-- A constructor for type tokens takes them in one array, or has a parameter for each of them. -/
theorem takesTypeTokens_iff {ctor : ConstructorDecl} {count : Nat} :
    ctor.takesTypeTokens count = true ↔
      (∃ param, ctor.params = [param] ∧ isTokenArray param = true) ∨
        ctor.params.length = count ∧ ∀ param ∈ ctor.params, isSingleToken param = true := by
  rw [ConstructorDecl.takesTypeTokens]
  split
  next param hparams => simp [hparams, isTokenArray, isSingleToken, @eq_comm _ count]
  next hparams =>
    have hnone : ¬∃ param, ctor.params = [param] ∧ isTokenArray param = true := by
      rintro ⟨param, hone, -⟩
      exact hparams param hone
    simp [hnone, isSingleToken]

/-- A constructor for type tokens supplies them all. -/
theorem supplies_of_takesTypeTokens {decl : TypeDecl} {ctor : ConstructorDecl}
    (h : ctor.takesTypeTokens decl.typeParams.length = true) {typeParam : TypeParam}
    (hmem : typeParam ∈ decl.typeParams) : Supplies decl ctor typeParam := by
  rcases takesTypeTokens_iff.1 h with ⟨param, hparams, harray⟩ | ⟨hlength, hsingle⟩
  · exact .inl ⟨param, hparams ▸ List.mem_singleton_self param, harray⟩
  · have htaken : decl.typeParams.take (ctor.params.countP isSingleToken) = decl.typeParams := by
      rw [List.countP_eq_length.2 hsingle, hlength, List.take_length]
    exact .inr (.inl ⟨typeParam, htaken.symm ▸ hmem, rfl⟩)

/-- The accessors for what a parser makes of a response belong to its public constructors, one to
each. Accessors for containers are no obstacle, as a base accessor of the same constructor takes
the same parameters. -/
theorem exists_isBaseAccessor_iff {config : Config} {aliasName observable : String}
    {decl : TypeDecl} {product : TypeExpr} {refs : List ClassRef}
    (hobservable : config.reactive.observable? = some observable)
    (hproduct : decl.product? = some product) :
    (∃ base ∈ decl.publicConstructors.flatMap
        (accessorsOf observable ("as" ++ aliasName) decl product refs),
      IsBaseAccessor config aliasName decl base ∧ TakesClassTokens decl base) ↔
      ∃ ctor ∈ decl.publicConstructors,
        ∀ typeParam ∈ decl.typeParams, Supplies decl ctor typeParam := by
  constructor
  · rintro ⟨base, hbase, -, htakes⟩
    obtain ⟨ctor, hctor, hmade⟩ := List.mem_flatMap.1 hbase
    exact ⟨ctor, hctor, (takesClassTokens_iff (params_of_mem_accessorsOf hmade)).1 htakes⟩
  · rintro ⟨ctor, hctor, hsupplies⟩
    refine ⟨accessor observable ("as" ++ aliasName) decl product ctor,
      List.mem_flatMap.2 ⟨ctor, hctor, List.mem_cons_self⟩, ⟨rfl, ?_⟩,
      (takesClassTokens_iff rfl).2 hsupplies⟩
    exact ⟨observable, product, hobservable, hproduct, rfl⟩

/-! ### What the contract gives -/

/-- The contract of a generic parser asks for a constructor for type tokens in reactive mode, and
any but a private one will do. -/
theorem hasTokenConstructor_of_checkType {config : Config} {round : Round} {decl : TypeDecl}
    (h : Contract.checkType config round .parser decl = .ok ())
    (hreactive : config.reactive.isEnabled = true) (hgeneric : decl.isGeneric = true) :
    ∃ ctor ∈ decl.constructors, ctor.modifiers.isPrivate = false ∧
      ctor.takesTypeTokens decl.typeParams.length = true := by
  have hclauses := Contract.checkType_eq_ok_iff.1 h
  simp only [Contract.ofType, hgeneric, if_true, Contract.genericParser, hreactive,
    List.forall_mem_append, List.forall_mem_cons] at hclauses
  have htoken : Contract.hasTokenConstructor decl = true := by simpa using hclauses.1.2.2.2.2.1
  simpa [Contract.hasTokenConstructor] using htoken

/-- A generic parser that meets its contract in reactive mode has a constructor for its type tokens
that is not private. Its accessors include one that takes a class token for each type parameter
exactly if a public constructor supplies them, for which it is enough that a public constructor is
for type tokens. -/
theorem exists_takesClassTokens_iff {config : Config} {round : Round} {aliasName : String}
    {decl : TypeDecl} {wrappers : List TypeExpr}
    (hcontract : Contract.checkType config round .parser decl = .ok ())
    (hreactive : config.reactive.isEnabled = true) (hgeneric : decl.isGeneric = true)
    (hproduct : decl.product?.isSome = true) (hclear : ¬AccessorsClash decl wrappers) :
    (∃ ctor ∈ decl.constructors, ctor.modifiers.isPrivate = false ∧
      ctor.takesTypeTokens decl.typeParams.length = true) ∧
    ∃ members, accessors config aliasName decl wrappers = .ok (some members) ∧
      ((∃ base ∈ members,
          IsBaseAccessor config aliasName decl base ∧ TakesClassTokens decl base) ↔
        ∃ ctor ∈ decl.publicConstructors,
          ∀ typeParam ∈ decl.typeParams, Supplies decl ctor typeParam) ∧
      ((∃ ctor ∈ decl.publicConstructors,
          ctor.takesTypeTokens decl.typeParams.length = true) →
        ∃ base ∈ members,
          IsBaseAccessor config aliasName decl base ∧ TakesClassTokens decl base) := by
  obtain ⟨observable, hobservable⟩ : ∃ observable, config.reactive.observable? = some observable :=
    Option.isSome_iff_exists.1 ((observable?_isSome _).trans hreactive)
  obtain ⟨product, hproduct⟩ := Option.isSome_iff_exists.1 hproduct
  refine ⟨hasTokenConstructor_of_checkType hcontract hreactive hgeneric, _,
    accessors_of_not_clash hobservable hproduct hclear,
    exists_isBaseAccessor_iff hobservable hproduct, ?_⟩
  rintro ⟨ctor, hctor, htokens⟩
  exact (exists_isBaseAccessor_iff hobservable hproduct).2
    ⟨ctor, hctor, fun _ hmem => supplies_of_takesTypeTokens htokens hmem⟩

theorem exists_takesClassTokens_pageParser :
    let parser := pageParser [tokenConstructor] (.variable "T")
    Contract.checkType {} { types := [parser] } .parser parser = .ok () ∧
      parser.isGeneric = true ∧ parser.product?.isSome = true ∧ ¬AccessorsClash parser [] ∧
      ∃ members, accessors {} "Page" parser [] = .ok (some members) ∧
        ∃ base ∈ members, IsBaseAccessor {} "Page" parser base ∧ TakesClassTokens parser base := by
  intro parser
  have hcontract : Contract.checkType {} { types := [parser] } .parser parser = .ok () :=
    Contract.checkType_pageParser _ _ (by decide)
  have hproduct : parser.product?.isSome = true := by rw [product?_pageParser, Option.isSome_some]
  have hpublic : tokenConstructor ∈ parser.publicConstructors := by
    rw [publicConstructors_pageParser]
    decide
  obtain ⟨-, members, hmembers, -, hbase⟩ :=
    @exists_takesClassTokens_iff {} _ "Page" parser [] hcontract rfl rfl hproduct
      not_accessorsClash_nil
  exact ⟨hcontract, rfl, hproduct, not_accessorsClash_nil, members, hmembers,
    hbase ⟨tokenConstructor, hpublic, by decide⟩⟩

/-- A parser whose constructor for type tokens is protected meets its contract and has no
accessor. -/
theorem not_exists_takesClassTokens_protectedParser :
    let parser := pageParser
      [{ tokenConstructor with modifiers := { isProtected := true } }] (.variable "T")
    Contract.checkType {} { types := [parser] } .parser parser = .ok () ∧
      Config.reactive {} = .rxJava3 ∧ parser.isGeneric = true ∧
      parser.product? = some (.variable "T") ∧ ¬AccessorsClash parser [] ∧
      accessors {} "Page" parser [] = .ok (some []) ∧
      ¬∃ members, accessors {} "Page" parser [] = .ok (some members) ∧
        ∃ base ∈ members, IsBaseAccessor {} "Page" parser base ∧ TakesClassTokens parser base := by
  intro parser
  have haccessors : accessors {} "Page" parser [] = .ok (some []) := by
    rw [accessors_of_not_clash rfl product?_pageParser not_accessorsClash_nil,
      publicConstructors_pageParser]
    rfl
  refine ⟨Contract.checkType_pageParser _ _ (by decide), rfl, rfl, product?_pageParser,
    not_accessorsClash_nil, haccessors, ?_⟩
  rintro ⟨members, hmembers, base, hbase, -⟩
  rw [haccessors] at hmembers
  cases hmembers
  cases hbase

end FluentHttp.Api
