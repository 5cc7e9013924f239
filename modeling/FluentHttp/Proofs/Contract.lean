import FluentHttp.Proofs.Session
import FluentHttp.Proofs.TypeExpr.Canonical

/-!
# FluentHttp.Proofs.Contract

Meeting a contract is meeting each of its clauses (`Contract.checkType_eq_ok_iff`), and a round
breaks no contract exactly if each of its annotated declarations meets its own
(`Round.failures_eq_nil_iff`). At the end there are a builder and a parser that meet theirs.
-/

namespace FluentHttp

/-- No clause is broken exactly if all hold. -/
theorem Clause.firstBroken?_eq_none_iff {clauses : List Clause} :
    firstBroken? clauses = none ↔ ∀ clause ∈ clauses, clause.holds = true := by
  simp [firstBroken?]

/-- A class meets the contract of a category exactly if it meets all clauses. -/
theorem Contract.checkType_eq_ok_iff {config : Config} {round : Round} {category : Category}
    {decl : TypeDecl} :
    checkType config round category decl = .ok () ↔
      ∀ clause ∈ ofType config round decl category, clause.holds = true := by
  rw [← Clause.firstBroken?_eq_none_iff, checkType]
  cases Clause.firstBroken? (ofType config round decl category) <;> simp

/-- The same goes for a field. -/
theorem Contract.checkField_eq_ok_iff {round : Round} {category : Category} {field : FieldDecl} :
    checkField round category field = .ok () ↔
      ∀ clause ∈ ofField round field category, clause.holds = true := by
  rw [← Clause.firstBroken?_eq_none_iff, checkField]
  cases Clause.firstBroken? (ofField round field category) <;> simp

/-- A builder has to be public, concrete and to inherit from the marker, and nothing else. -/
theorem Contract.checkType_param_eq_ok_iff {config : Config} {round : Round} {decl : TypeDecl} :
    checkType config round .param decl = .ok () ↔
      decl.modifiers.isPublic = true ∧ decl.modifiers.isAbstract = false ∧
        round.declReaches decl .param = true := by
  rw [checkType_eq_ok_iff]
  simp [ofType, concrete, inherits]

/-- The same goes for a parser without type parameters. -/
theorem Contract.checkType_parser_eq_ok_iff_of_not_generic {config : Config} {round : Round}
    {decl : TypeDecl} (h : decl.isGeneric = false) :
    checkType config round .parser decl = .ok () ↔
      decl.modifiers.isPublic = true ∧ decl.modifiers.isAbstract = false ∧
        round.declReaches decl .parser = true := by
  rw [checkType_eq_ok_iff]
  simp [ofType, h, concrete, inherits]

/-- A class whose superclass is a library type reaches the marker of that type, whatever else the
round declares. -/
theorem Round.declReaches_of_superclass (round : Round) {decl : TypeDecl}
    {library marker : LibraryType} {args : List TypeExpr}
    (hsuper : decl.superclass = some (.ofLibrary library args))
    (hreaches : library.reaches marker = true) : round.declReaches decl marker = true := by
  have hclass : (TypeExpr.ofLibrary library args).class? = some (.ofLibrary library args) := rfl
  have hlibrary : (ClassRef.ofLibrary library args).library? = some library :=
    TypeExpr.library?_ofLibrary library args
  rw [declReaches, TypeDecl.supertypes, hsuper, Option.toList_some, List.singleton_append, leadTo]
  simp only [hclass, hlibrary, hreaches, Bool.true_or]

namespace Round

theorem typeError?_eq_none_iff {config : Config} {round : Round} {category : Category}
    {decl : TypeDecl} :
    round.typeError? config category decl = none ↔
      (∀ clause ∈ Contract.ofType config round decl category, clause.holds = true) ∧
        lacksAlias category decl = false := by
  rw [typeError?, Option.map_eq_none_iff, Option.or_eq_none_iff,
    Clause.firstBroken?_eq_none_iff]
  simp

/-- A round breaks no contract exactly if none of its annotated declarations does. -/
theorem failures_eq_nil_iff {config : Config} {round : Round} :
    round.failures config = [] ↔
      ∀ category,
        (∀ decl ∈ round.annotatedTypes category, round.typeError? config category decl = none) ∧
          ∀ entry ∈ (round.annotatedFields category).zipIdx,
            round.fieldError? category entry.1 entry.2 = none := by
  have hall : ∀ category, category ∈ Category.all := by
    intro category
    cases category <;> decide
  simp [failures, List.filterMap_eq_nil_iff, failure?, hall]

/-- A round breaks no contract if its annotated classes and its annotated fields do not. -/
theorem failures_eq_nil_of_types_of_fields {config : Config} {round : Round}
    (htypes : ∀ decl ∈ round.types, ∀ category, decl.category? = some category →
      round.typeError? config category decl = none)
    (hfields : ∀ category, ∀ entry ∈ (round.annotatedFields category).zipIdx,
      round.fieldError? category entry.1 entry.2 = none) : round.failures config = [] := by
  refine failures_eq_nil_iff.2 fun category => ⟨?_, hfields category⟩
  intro decl hdecl
  obtain ⟨hmem, hcategory⟩ := List.mem_filter.1 hdecl
  exact htypes decl hmem category (by simpa using hcategory)

/-- A round without fields breaks no contract if its annotated classes do not. -/
theorem failures_eq_nil_of_no_fields {config : Config} {round : Round} (hfields : round.fields = [])
    (htypes : ∀ decl ∈ round.types, ∀ category, decl.category? = some category →
      round.typeError? config category decl = none) : round.failures config = [] :=
  failures_eq_nil_of_types_of_fields htypes (by simp [annotatedFields, hfields])

/-- A public and concrete class on top of a library builder breaks no contract of a builder. -/
theorem typeError?_param_eq_none (round : Round) {config : Config} {decl : TypeDecl}
    {library : LibraryType} {args : List TypeExpr} {methodName : String}
    (hpublic : decl.modifiers.isPublic = true) (hconcrete : decl.modifiers.isAbstract = false)
    (hsuper : decl.superclass = some (.ofLibrary library args))
    (hreaches : library.reaches .param = true)
    (hannotated : decl.annotation = some (.param methodName)) (hname : methodName ≠ "") :
    round.typeError? config .param decl = none := by
  have hcontract : Contract.checkType config round .param decl = .ok () :=
    Contract.checkType_param_eq_ok_iff.2
      ⟨hpublic, hconcrete, round.declReaches_of_superclass hsuper hreaches⟩
  refine typeError?_eq_none_iff.2 ⟨Contract.checkType_eq_ok_iff.1 hcontract, ?_⟩
  simp [lacksAlias, Category.isField, TypeDecl.aliasName?, hannotated, Annotation.aliasName?,
    hname]

end Round

/-! ### Declarations that meet their contracts -/

/-- A builder on top of the library's own. -/
def plainBuilder (name methodName : String) : TypeDecl :=
  { name
    modifiers := { isPublic := true }
    superclass := some (.ofLibrary .abstractParam [])
    annotation := some (.param methodName) }

theorem Round.typeError?_plainBuilder (round : Round) {config : Config} {name methodName : String}
    (h : methodName ≠ "") :
    round.typeError? config .param (plainBuilder name methodName) = none :=
  round.typeError?_param_eq_none rfl rfl rfl rfl rfl h

/-- A public constructor. -/
def publicConstructor (params : List Parameter) : ConstructorDecl :=
  { modifiers := { isPublic := true }, params }

/-- A builder that takes a URL or nothing. -/
def urlBuilder : TypeDecl :=
  { plainBuilder "com.example.GetParam" "get" with
    members :=
      [.constructor (publicConstructor [{ name := "url", type := .ofLibrary .string [] }]),
        .constructor (publicConstructor [])] }

/-- A field that holds a base URL and has no alias of its own. -/
def baseField (owner : String) : FieldDecl :=
  { owner
    name := "base"
    modifiers := { isPublic := true, isStatic := true }
    type := .ofLibrary .string []
    annotation := some (.domain "") }

/-- The constructor for a type token. -/
def tokenConstructor : ConstructorDecl :=
  publicConstructor [{ name := "type", type := .ofLibrary .reflectType [] }]

/-- A parser with the type parameter `T` and with a constructor for subclasses before its public
ones. -/
def pageParser (ctors : List ConstructorDecl) (product : TypeExpr) : TypeDecl :=
  { name := "com.example.PageParser"
    modifiers := { isPublic := true }
    typeParams := [{ name := "T" }]
    superclass := some (.ofLibrary .typeParser [.variable "T"])
    members :=
      .constructor { modifiers := { isProtected := true } } :: ctors.map .constructor
        ++ [.method
          { name := "onParse"
            modifiers := { isPublic := true }
            params := [{ name := "response", type := .ofLibrary .response [] }]
            returnType := product }]
    annotation := some (.parser "Page" []) }

section PageParser

variable {ctors : List ConstructorDecl} {product : TypeExpr}

theorem product?_pageParser : (pageParser ctors product).product? = some product := by
  have hmethods : (pageParser ctors product).methods =
      [{ name := "onParse"
         modifiers := { isPublic := true }
         params := [{ name := "response", type := .ofLibrary .response [] }]
         returnType := product }] := by
    rw [TypeDecl.methods, pageParser, List.filterMap_append, List.filterMap_cons,
      List.filterMap_map]
    exact List.append_left_eq_self.2 (List.filterMap_eq_nil_iff.2 fun _ _ => rfl)
  rw [TypeDecl.product?, hmethods]
  rfl

theorem constructors_pageParser :
    (pageParser ctors product).constructors =
      { modifiers := { isProtected := true } } :: ctors := by
  rw [TypeDecl.constructors, pageParser, List.filterMap_append, List.filterMap_cons,
    List.filterMap_map]
  exact (List.append_nil _).trans (congrArg _ List.filterMap_some)

theorem publicConstructors_pageParser :
    (pageParser ctors product).publicConstructors = ctors.filter (·.modifiers.isPublic) := by
  rw [TypeDecl.publicConstructors, constructors_pageParser]
  rfl

/-- The parser meets its contract if it has a constructor for its type token. -/
theorem holds_of_pageParser (config : Config) (round : Round)
    (h : ctors.any (fun ctor => !ctor.modifiers.isPrivate && ctor.takesTypeTokens 1) = true) :
    ∀ clause ∈ Contract.ofType config round (pageParser ctors product) .parser,
      clause.holds = true := by
  have hgeneric : (pageParser ctors product).isGeneric = true := rfl
  have hreaches : round.declReaches (pageParser ctors product) .parser = true :=
    round.declReaches_of_superclass rfl rfl
  have hnoArg : (pageParser ctors product).noArgConstructor? =
      some { modifiers := { isProtected := true } } := by
    rw [TypeDecl.noArgConstructor?, constructors_pageParser]
    rfl
  have htokens : Contract.hasTokenConstructor (pageParser ctors product) = true := by
    rw [Contract.hasTokenConstructor, constructors_pageParser, List.any_cons, Bool.or_eq_true]
    exact .inr h
  simp only [Contract.ofType, Contract.concrete, Contract.genericParser, Contract.inherits,
    hgeneric, if_true, hreaches, hnoArg, htokens, List.forall_mem_append, List.forall_mem_cons]
  simp [pageParser, Modifiers.isRestricted]

theorem Round.typeError?_pageParser (config : Config) (round : Round)
    (h : ctors.any (fun ctor => !ctor.modifiers.isPrivate && ctor.takesTypeTokens 1) = true) :
    round.typeError? config .parser (pageParser ctors product) = none :=
  typeError?_eq_none_iff.2 ⟨holds_of_pageParser config round h, rfl⟩

theorem Contract.checkType_pageParser (config : Config) (round : Round)
    (h : ctors.any (fun ctor => !ctor.modifiers.isPrivate && ctor.takesTypeTokens 1) = true) :
    checkType config round .parser (pageParser ctors product) = .ok () :=
  checkType_eq_ok_iff.2 (holds_of_pageParser config round h)

end PageParser

end FluentHttp
