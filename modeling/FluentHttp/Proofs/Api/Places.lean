import FluentHttp.Proofs.Api.Containers
import FluentHttp.Proofs.Api.Slots
import FluentHttp.Proofs.Contract
import Mathlib.Data.List.Forall2

/-!
# FluentHttp.Proofs.Api.Places

What the accessors of a parser make of each parameter of a constructor, told from its place alone.

Slots are made from left to right, and each single type token uses up a type parameter. The role of
a parameter says the same without that state: it counts the single type tokens in front of the
parameter (`slotsOf_eq_map_roles`). From the roles follow the parameters that an accessor takes, the
arguments that it passes to the constructor, and the locals of an accessor that parses into a
container (`accessors_of_generic`).
-/

namespace FluentHttp.Api

open Java

/-! ### Roles -/

/-- Whether a parameter is an array of type tokens. -/
def isTokenArray (param : Parameter) : Bool :=
  param.type.isArrayOf .reflectType

/-- What a parameter of a constructor is to the accessors. -/
inductive Role where
  /-- An array of type tokens. -/
  | tokenArray
  /-- The type token of a type parameter. -/
  | token (typeParam : TypeParam)
  /-- Anything else, which is passed on. -/
  | plain

namespace Role

/-- The role of a parameter that has `before` single type tokens in front of it. A single type token
stands for the type parameter whose turn it is, and is passed on when there is none left. -/
def of (typeParams : List TypeParam) (before : Nat) (param : Parameter) : Role :=
  if isTokenArray param then .tokenArray
  else if param.type.isLibrary .reflectType then typeParams[before]?.elim .plain .token
  else .plain

section Accessor

variable (typeParams : List TypeParam) (param : Parameter)

/-- The parameters that an accessor takes for one of the constructor. -/
def taken : Role → List Parameter
  | tokenArray => typeParams.map tokenParam
  | token typeParam => [{ name := param.name, type := classToken typeParam }]
  | plain => [param]

/-- The names of the class tokens among them. -/
def tokens : Role → List String
  | tokenArray => typeParams.map fun typeParam => (tokenParam typeParam).name
  | token _ => [param.name]
  | plain => []

/-- The argument of the constructor, with what `token` says for each class token. -/
def passed (token : String → Expr) : Role → Expr
  | tokenArray =>
    .newArray (.ofLibrary .reflectType [])
      (typeParams.map fun typeParam => token (tokenParam typeParam).name)
  | .token _ => token param.name
  | plain => .variable param.name

/-- The slot of a parameter in a role. -/
def slot (role : Role) : Slot :=
  { params := role.taken typeParams param
    source :=
      match role with
      | tokenArray => .tokenArray (role.tokens typeParams param)
      | token _ => .token param.name
      | plain => .plain param.name }

theorem tokens_slot (role : Role) :
    (role.slot typeParams param).source.tokens = role.tokens typeParams param := by
  cases role <;> rfl

theorem toExpr_slot (mark : String) (role : Role) :
    (role.slot typeParams param).source.toExpr mark =
      role.passed typeParams param fun name => .variable (name ++ mark) := by
  cases role with
  | tokenArray => simp [slot, tokens, passed, ArgSource.toExpr, Function.comp_def]
  | token _ | plain => rfl

end Accessor

variable {typeParams : List TypeParam} {before : Nat} {param : Parameter}

theorem isLibrary_of_isTokenArray {library : LibraryType} (h : isTokenArray param = true) :
    param.type.isLibrary library = false := by
  rw [isTokenArray] at h
  cases htype : param.type with
  | array component => rfl
  | _ => simp [htype, TypeExpr.isArrayOf] at h

theorem of_of_isTokenArray (h : isTokenArray param = true) :
    of typeParams before param = .tokenArray := by
  rw [of, if_pos h]

theorem of_of_isLibrary (h : param.type.isLibrary .reflectType = true) {next : TypeParam}
    (hnext : typeParams[before]? = some next) : of typeParams before param = .token next := by
  have harray : ¬isTokenArray param = true := by
    intro harray
    rw [isLibrary_of_isTokenArray harray] at h
    cases h
  rw [of, if_neg harray, if_pos h, hnext]
  rfl

theorem of_of_plain (harray : isTokenArray param = false)
    (h : typeParams.length ≤ before ∨ param.type.isLibrary .reflectType = false) :
    of typeParams before param = .plain := by
  rw [of, if_neg (by simp [harray])]
  rcases h with hlength | hlibrary
  · rw [List.getElem?_eq_none hlength]
    exact ite_self _
  · rw [if_neg (by simp [hlibrary])]

end Role

/-- The number of single type tokens in front of a place. -/
def tokensBefore (params : List Parameter) (place : Nat) : Nat :=
  (params.take place).countP (·.type.isLibrary .reflectType)

theorem tokensBefore_cons_succ (param : Parameter) (params : List Parameter) (place : Nat) :
    tokensBefore (param :: params) (place + 1) =
      (if param.type.isLibrary .reflectType then 1 else 0) + tokensBefore params place := by
  rw [tokensBefore, List.take_succ_cons, List.countP_cons, Nat.add_comm]
  rfl

/-- The parameters of a constructor with their roles. -/
def roles (typeParams : List TypeParam) (params : List Parameter) : List (Parameter × Role) :=
  params.mapIdx fun place param => (param, .of typeParams (tokensBefore params place) param)

/-- While all but the first `before` type parameters are unused, the slots are those of the roles
that count `before` type tokens more. -/
theorem slots_drop_eq (typeParams : List TypeParam) (before : Nat) (params : List Parameter) :
    slots typeParams (typeParams.drop before) params =
      params.mapIdx fun place param =>
        (Role.of typeParams (before + tokensBefore params place) param).slot typeParams param := by
  induction params generalizing before with
  | nil => rfl
  | cons param rest ih =>
      simp only [List.mapIdx_cons, tokensBefore_cons_succ, ← Nat.add_assoc]
      rcases slots_cons_cases typeParams (typeParams.drop before) param rest with
        ⟨harray, hslots⟩ | ⟨next, later, hdrop, -, htoken, hslots⟩ | ⟨harray, hplain, hslots⟩
      · have hrole : Role.of typeParams before param = .tokenArray :=
          Role.of_of_isTokenArray harray
        rw [if_neg (by simp [Role.isLibrary_of_isTokenArray harray]), hslots, ih]
        simp [tokensBefore, hrole, Role.slot, Role.taken, Role.tokens]
      · have hnext : typeParams[before]? = some next := by
          rw [← List.head?_drop, hdrop, List.head?_cons]
        have hlater : later = typeParams.drop (before + 1) := by
          rw [← List.tail_drop, hdrop, List.tail_cons]
        have hrole : Role.of typeParams before param = .token next :=
          Role.of_of_isLibrary htoken hnext
        rw [if_pos htoken, hslots, hlater, ih]
        simp [tokensBefore, hrole, Role.slot, Role.taken]
      · have hrole : Role.of typeParams before param = .plain :=
          Role.of_of_plain harray (hplain.imp_left List.drop_eq_nil_iff.1)
        -- a single type token that is passed on comes after the last type parameter
        have hdrop : typeParams.drop before =
            typeParams.drop (before + if param.type.isLibrary .reflectType then 1 else 0) := by
          rcases hplain with hnil | hlibrary
          · have hlength := List.drop_eq_nil_iff.1 hnil
            rw [hnil, List.drop_eq_nil_of_le (by omega)]
          · rw [if_neg (by simp [hlibrary]), Nat.add_zero]
        rw [hslots, hdrop, ih]
        simp [tokensBefore, hrole, Role.slot, Role.taken]

/-- The slots of a constructor are those of the roles of its parameters. -/
theorem slotsOf_eq_map_roles (decl : TypeDecl) (ctor : ConstructorDecl) :
    slotsOf decl ctor =
      (roles decl.typeParams ctor.params).map fun (param, role) =>
        role.slot decl.typeParams param := by
  have hslots := slots_drop_eq decl.typeParams 0 ctor.params
  rw [List.drop_zero] at hslots
  rw [slotsOf, hslots, roles]
  simp [List.mapIdx_eq_zipIdx_map, Function.comp_def]

/-! ### Accessors -/

/-- The parameters that an accessor takes for those of a constructor. -/
def takenParams (typeParams : List TypeParam) (params : List Parameter) : List Parameter :=
  (roles typeParams params).flatMap fun (param, role) => role.taken typeParams param

/-- The names of the class tokens among them, for each use in an argument of the constructor. -/
def tokenNames (typeParams : List TypeParam) (params : List Parameter) : List String :=
  (roles typeParams params).flatMap fun (param, role) => role.tokens typeParams param

/-- The arguments of a constructor, with what `token` says for each class token. -/
def passedArgs (typeParams : List TypeParam) (token : String → Expr) (params : List Parameter) :
    List Expr :=
  (roles typeParams params).map fun (param, role) => role.passed typeParams param token

/-- A member takes the parameters of an accessor of a constructor and parses with a new parser, for
which it passes what `token` says for each class token. Locals may come first. -/
structure Parses (decl : TypeDecl) (ctor : ConstructorDecl) (locals : List Stmt)
    (token : String → Expr) (member : Java.Member) : Prop where
  params : member.params = takenParams decl.typeParams ctor.params
  body : member.body = locals ++
    [.result (.localCall "asParser"
      [.newObject decl.classRef decl.isGeneric
        (passedArgs decl.typeParams token ctor.params)])]

section Accessor

variable (observable name : String) (decl : TypeDecl) (product : TypeExpr) (ctor : ConstructorDecl)

theorem flatMap_params_slotsOf :
    (slotsOf decl ctor).flatMap (·.params) = takenParams decl.typeParams ctor.params := by
  rw [slotsOf_eq_map_roles, List.flatMap_map]
  rfl

theorem map_toExpr_slotsOf (mark : String) :
    (slotsOf decl ctor).map (·.source.toExpr mark) =
      passedArgs decl.typeParams (fun token => .variable (token ++ mark)) ctor.params := by
  rw [slotsOf_eq_map_roles, List.map_map]
  exact List.map_congr_left fun _ _ => Role.toExpr_slot ..

theorem flatMap_tokens_slotsOf :
    ((slotsOf decl ctor).map (·.source)).flatMap (·.tokens) =
      tokenNames decl.typeParams ctor.params := by
  rw [slotsOf_eq_map_roles, List.map_map, List.flatMap_map]
  exact congrArg (List.flatMap · _) (funext fun _ => Role.tokens_slot ..)

theorem parses_accessor :
    Parses decl ctor [] Expr.variable (accessor observable name decl product ctor) := by
  refine ⟨flatMap_params_slotsOf decl ctor, ?_⟩
  have hargs := map_toExpr_slotsOf decl ctor ""
  simp only [String.append_empty] at hargs
  rw [accessor, hargs]
  rfl

theorem parses_containerAccessor (container : ClassRef) :
    Parses decl ctor
      ((tokenNames decl.typeParams ctor.params).map (containerToken container))
      (fun token => .variable (token ++ container.simpleName))
      (containerAccessor observable name decl product ctor container) := by
  refine ⟨flatMap_params_slotsOf decl ctor, ?_⟩
  have hargs := map_toExpr_slotsOf decl ctor container.simpleName
  rw [containerAccessor, flatMap_tokens_slotsOf, List.map_map]
  exact congrArg (fun args => _ ++ [Stmt.result (parseCall decl args)]) hargs

end Accessor

/-! ### Accessors of generic parsers -/

/-- The type of a container of what a class token stands for, as made at run time. -/
def containerType (container : ClassRef) (token : String) : Expr :=
  .staticCall { name := "rxhttp.wrapper.entity.ParameterizedTypeImpl" } "get"
    [.classLiteral container.toType, .variable token]

/-- A member parses like an accessor of a constructor, but into a container: it passes a local in
the place of each class token, and all locals of that name hold the type of the container of the
token. -/
structure ParsesInto (decl : TypeDecl) (ctor : ConstructorDecl) (container : ClassRef)
    (member : Java.Member) : Prop where
  parses : Parses decl ctor
    ((tokenNames decl.typeParams ctor.params).map fun token =>
      .declare (.ofLibrary .reflectType []) (token ++ container.simpleName)
        (containerType container token))
    (fun token => .variable (token ++ container.simpleName)) member
  local_eq : ∀ token type init,
    .declare type (token ++ container.simpleName) init ∈ member.body →
      init = containerType container token

theorem parsesInto_containerAccessor (observable name : String) (decl : TypeDecl)
    (product : TypeExpr) (ctor : ConstructorDecl) (container : ClassRef) :
    ParsesInto decl ctor container
      (containerAccessor observable name decl product ctor container) := by
  have hparses := parses_containerAccessor observable name decl product ctor container
  refine ⟨hparses, fun token type init hmem => ?_⟩
  rw [hparses.body, List.mem_append, List.mem_singleton] at hmem
  rcases hmem with hmem | hresult
  · -- the name of a local tells its token
    obtain ⟨other, -, heq⟩ := List.mem_map.1 hmem
    obtain ⟨-, hname, rfl⟩ := Stmt.declare.inj heq
    rw [(String.append_left_inj _).1 hname]
    rfl
  · cases hresult

/-- A parser has accessors into containers for a constructor: it has exactly one type parameter, and
the constructor takes a token for it. -/
def OffersContainers (decl : TypeDecl) (ctor : ConstructorDecl) : Prop :=
  decl.typeParams.length = 1 ∧ ∃ param ∈ ctor.params, TakesToken param

/-- **The accessors of a generic parser.** Each public constructor has one accessor, followed by one
for each container if the parser has exactly one type parameter and the constructor takes a type
token. All of them take for each parameter of the constructor what its role asks for, and pass one
argument for it. An accessor that parses into a container passes locals in the place of its class
tokens, each of which holds the type of the container of that token. -/
theorem accessors_of_generic {config : Config} {aliasName observable : String} {decl : TypeDecl}
    {wrappers : List TypeExpr} {product : TypeExpr} {refs : List ClassRef}
    (hobservable : config.reactive.observable? = some observable)
    (hproduct : decl.product? = some product) (hgeneric : decl.typeParams ≠ [])
    (hrefs : decl.typeParams.length = 1 → containers decl wrappers = .ok refs) :
    ∃ groups : List (List Java.Member),
      accessors config aliasName decl wrappers = .ok (some groups.flatten) ∧
      List.Forall₂ (fun ctor group => ∃ base others, group = base :: others ∧
          base.name = "as" ++ aliasName ∧ base.returnType = some (.named observable [product]) ∧
          Parses decl ctor [] Expr.variable base ∧
          (OffersContainers decl ctor →
            List.Forall₂ (fun container member =>
                member.name = "as" ++ aliasName ++ container.simpleName ∧
                ParsesInto decl ctor container member)
              refs others) ∧
          (¬OffersContainers decl ctor → others = []))
        decl.publicConstructors groups := by
  have hclash : ¬AccessorsClash decl wrappers := by
    rintro ⟨hone, hclash⟩
    exact (containers_eq_ok_iff.1 (hrefs hone)).1 hclash
  refine ⟨decl.publicConstructors.map (accessorsOf observable ("as" ++ aliasName) decl product
      (accessorContainers decl wrappers)),
    accessors_of_not_clash hobservable hproduct hclash, ?_⟩
  rw [List.forall₂_map_right_iff, List.forall₂_same]
  intro ctor _
  have htokens : (slotsOf decl ctor).any (·.source.isToken) = true ↔
      ∃ param ∈ ctor.params, TakesToken param := any_isToken_slots hgeneric ctor.params
  refine ⟨_, _, rfl, rfl, rfl, parses_accessor .., ?_, ?_⟩
  · rintro ⟨hone, htoken⟩
    have hcontainers : accessorContainers decl wrappers = refs := by
      rw [accessorContainers, if_pos hone, (containers_eq_ok_iff.1 (hrefs hone)).2]
    rw [if_pos (htokens.2 htoken), hcontainers, List.forall₂_map_right_iff, List.forall₂_same]
    exact fun container _ => ⟨rfl, parsesInto_containerAccessor ..⟩
  · intro hnone
    by_cases hone : decl.typeParams.length = 1
    · exact if_neg fun hany => hnone ⟨hone, htokens.1 hany⟩
    · rw [accessorContainers, if_neg hone, List.map_nil, ite_self]

/-- A constructor that takes type tokens in every way, one of them after the last type parameter. -/
def mixedConstructor : ConstructorDecl :=
  publicConstructor
    [{ name := "page", type := .primitive .int },
      { name := "type", type := .ofLibrary .reflectType [] },
      { name := "types", type := .array (.ofLibrary .reflectType []) },
      { name := "other", type := .ofLibrary .reflectType [] }]

theorem accessors_of_generic_mixedConstructor :
    let parser := pageParser [mixedConstructor] (.variable "T")
    let tokenType := TypeExpr.ofLibrary .reflectType []
    let list (token : String) := containerType (.ofLibrary .list []) token
    ∃ base intoList, accessors {} "Page" parser [] = .ok (some [base, intoList]) ∧
      base.params.map (·.name) = ["page", "type", "tType", "other"] ∧
      intoList.params = base.params ∧
      intoList.body =
        [.declare tokenType "typeList" (list "type"),
          .declare tokenType "tTypeList" (list "tType"),
          .result (.localCall "asParser" [.newObject parser.classRef true
            [.variable "page", .variable "typeList",
              .newArray tokenType [.variable "tTypeList"], .variable "other"]])] := by
  intro parser tokenType list
  have hobservable : ({} : Config).reactive.observable? =
      some "io.reactivex.rxjava3.core.Observable" := rfl
  have hrefs : parser.typeParams.length = 1 → containers parser [] = .ok [.ofLibrary .list []] :=
    fun _ => rfl
  obtain ⟨groups, hgroups, hall⟩ :=
    @accessors_of_generic _ "Page" _ parser [] _ _ hobservable product?_pageParser
      (List.cons_ne_nil _ _) hrefs
  have hpublic : parser.publicConstructors = [mixedConstructor] := rfl
  rw [hpublic] at hall
  obtain ⟨_, _, ⟨base, others, rfl, -, -, hbase, hothers, -⟩, hnil, rfl⟩ :=
    List.forall₂_cons_left_iff.1 hall
  have hoffers : OffersContainers parser mixedConstructor :=
    ⟨rfl, { name := "type", type := tokenType }, by decide, .inl (by decide)⟩
  obtain ⟨intoList, _, ⟨-, hlist⟩, hnone, rfl⟩ := List.forall₂_cons_left_iff.1 (hothers hoffers)
  obtain rfl := List.forall₂_nil_left_iff.1 hnil
  obtain rfl := List.forall₂_nil_left_iff.1 hnone
  refine ⟨base, intoList, hgroups, ?_, ?_, ?_⟩
  · rw [hbase.params]
    decide
  · rw [hlist.parses.params, hbase.params]
  · rw [hlist.parses.body]
    rfl

end FluentHttp.Api
