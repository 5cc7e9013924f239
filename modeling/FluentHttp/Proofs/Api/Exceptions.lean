import FluentHttp.Proofs.Api.DeclaredNames
import FluentHttp.Proofs.Api.Factories
import FluentHttp.Proofs.Api.Members
import FluentHttp.Proofs.Api.TokenConstructors
import FluentHttp.Proofs.Java.Imports
import FluentHttp.Proofs.Java.Resolution

/-!
# FluentHttp.Proofs.Api.Exceptions

Which exceptions the members that make a builder or a parser declare.

A member runs the constructor that its arguments resolve to, or for a subclass on the spot the one
without parameters (`Invokes`). Factories, the extensions of parsers without type parameters and the
accessors that parse into containers pass what the constructor takes that they are made for, so they
run that one, whose exceptions they have (`MakesOnce.declaresThrows`). An accessor passes class
tokens for type tokens, and an overload that takes these may capture it (`Captures`). The extension
of a generic parser is made for no constructor and declares no exceptions, whatever the constructor
declares that its subclass runs (`declaresThrows_subclassing_iff`).
-/

namespace FluentHttp.Api

open Java

/-! ### Members that make an instance -/

/-- A member makes an instance of a class with one of the constructors of the class: with the one
that its arguments resolve to, or for a subclass on the spot that passes none, with the one that
takes none. The names that the member declares have to be different, or it is no member at all. -/
inductive Invokes (fits : TypeExpr → TypeExpr → Prop) (package : String) (decl : TypeDecl)
    (member : Java.Member) : ConstructorDecl → Prop
  | object {diamond : Bool} {args : List Expr} {types : List TypeExpr} {ctor : ConstructorDecl}
    (hcreates : .newObject decl.classRef diamond args ∈ bodyCreations member.body)
    (hnames : (member.typedNames.map Prod.fst).Nodup)
    (htypes : args.map (member.argType? [formatMethod]) = types.map some)
    (hctor : Resolves fits package decl types ctor) : Invokes fits package decl member ctor
  | subclass {ctor : ConstructorDecl}
    (hcreates : .newSubclass decl.selfType [] ∈ bodyCreations member.body)
    (hctor : decl.noArgConstructor? = some ctor) : Invokes fits package decl member ctor

/-- A member declares all exceptions of the constructors that it makes instances with. -/
def DeclaresThrows (fits : TypeExpr → TypeExpr → Prop) (package : String) (decl : TypeDecl)
    (member : Java.Member) : Prop :=
  ∀ ctor, Invokes fits package decl member ctor → ctor.throws ⊆ member.throws

/-- A member makes instances with a single object creation, whose arguments have given types. It may
make objects of other classes around it. -/
inductive MakesOnce (decl : TypeDecl) (types : List TypeExpr) (member : Java.Member) : Prop
  | intro {before : List Expr} {diamond : Bool} {args : List Expr}
    (hcreations : bodyCreations member.body =
      before ++ [.newObject decl.classRef diamond args])
    (hbefore : ∀ expr ∈ before, ∃ type diamond args, expr = .newObject type diamond args ∧
      type ≠ decl.classRef)
    (htypes : (member.typedNames.map Prod.fst).Nodup →
      args.map (member.argType? [formatMethod]) = types.map some) : MakesOnce decl types member

section MakesOnce

variable {fits : TypeExpr → TypeExpr → Prop} {package : String} {decl : TypeDecl}
  {types : List TypeExpr} {member : Java.Member} {ctor : ConstructorDecl}

theorem MakesOnce.invokes_iff (h : MakesOnce decl types member) :
    Invokes fits package decl member ctor ↔
      (member.typedNames.map Prod.fst).Nodup ∧ Resolves fits package decl types ctor := by
  obtain ⟨hcreations, hbefore, htypes⟩ := h
  constructor
  · intro hinvokes
    cases hinvokes with
    | object hcreates hnames hpassed hctor =>
        rw [hcreations, List.mem_append, List.mem_singleton] at hcreates
        rcases hcreates with hother | heq
        · obtain ⟨type, _, _, heq, hne⟩ := hbefore _ hother
          exact absurd (Expr.newObject.inj heq).1.symm hne
        · obtain ⟨-, -, rfl⟩ := Expr.newObject.inj heq
          have hsame := (htypes hnames).symm.trans hpassed
          rw [List.map_inj_right fun _ _ => Option.some.inj] at hsame
          exact ⟨hnames, hsame ▸ hctor⟩
    | subclass hcreates _ =>
        rw [hcreations, List.mem_append, List.mem_singleton] at hcreates
        rcases hcreates with hother | heq
        · obtain ⟨_, _, _, heq, -⟩ := hbefore _ hother
          cases heq
        · cases heq
  · rintro ⟨hnames, hctor⟩
    exact .object (hcreations ▸ List.mem_append_right _ List.mem_cons_self) hnames (htypes hnames)
      hctor

/-- A member that passes exactly what a constructor takes declares its exceptions. -/
theorem MakesOnce.declaresThrows (h : MakesOnce decl types member) (hfits : IsFit fits)
    (hctor : ctor ∈ decl.publicConstructors)
    (htypes : List.Forall₂ Respelled types (takenTypes ctor))
    (hthrows : member.throws = ctor.throws) : DeclaresThrows fits package decl member := by
  intro other hinvokes
  obtain ⟨hdeclared, hpublic⟩ := List.mem_filter.1 hctor
  obtain rfl := (h.invokes_iff.1 hinvokes).2.eq_of_respelled hfits hdeclared (.inl hpublic) htypes
  rw [hthrows]
  exact List.Subset.refl _

end MakesOnce

/-! ### Factories -/

/-- No builder has the name of its wrapper, whose simple name is longer. -/
theorem classRef_wrapperHead_ne (config : Config) (decl : TypeDecl) :
    (wrapperHead config decl).classRef ≠ decl.classRef := by
  intro heq
  have hqualified : (wrapperHead config decl).qualifiedName = decl.name :=
    congrArg ClassRef.name heq
  obtain ⟨before, hname⟩ : ∃ before,
      decl.name.toList = before ++ (entryName ++ decl.simpleName).toList := by
    rw [← hqualified, ClassDecl.qualifiedName]
    split
    · exact ⟨[], (List.nil_append _).symm⟩
    · exact ⟨(config.package ++ ".").toList, String.toList_append⟩
  have hsimple : decl.simpleName.toList = afterLast '$' (afterLast '.' decl.name.toList) :=
    String.toList_ofList
  have hdot : '.' ∉ (entryName ++ decl.simpleName).toList := by
    rw [String.toList_append, List.mem_append, not_or]
    exact ⟨by decide, fun h => not_mem_afterLast '.' _ (afterLast_subset '$' _ (hsimple ▸ h))⟩
  have hdollar : '$' ∉ (entryName ++ decl.simpleName).toList := by
    rw [String.toList_append, List.mem_append, not_or]
    exact ⟨by decide, fun h => not_mem_afterLast '$' _ (hsimple ▸ h)⟩
  -- the simple name would end with itself and more
  rw [hname, afterLast_append before hdot, afterLast_append _ hdollar, String.toList_append]
    at hsimple
  have hlength := congrArg List.length hsimple
  rw [List.length_append, List.length_append] at hlength
  have hentry : entryName.toList.length = 6 := rfl
  omega

/-- Parameters that are passed on have their own types. -/
theorem map_argType?_params {member : Java.Member} {params : List Parameter}
    (hnames : (member.typedNames.map Prod.fst).Nodup) (h : params ⊆ member.params) :
    (params.map (Expr.variable ·.name)).map (member.argType? [formatMethod]) =
      (params.map (·.type)).map some := by
  rw [List.map_map, List.map_map]
  exact List.map_congr_left fun param hparam => Member.argType?_param hnames (h hparam)

/-- What a factory passes has the types that the constructor takes. Formatting makes a string of a
string. -/
theorem Takes.exists_types {ctor : ConstructorDecl} {args : List Expr} {member : Java.Member}
    (h : Takes ctor member.params args) :
    ∃ types, List.Forall₂ Respelled types (takenTypes ctor) ∧
      ((member.typedNames.map Prod.fst).Nodup →
        args.map (member.argType? [formatMethod]) = types.map some) := by
  generalize hparams : member.params = params at h
  cases h with
  | @formatted first rest stringArgs hctor hstring =>
      refine ⟨stringType :: rest.map (·.type), ?_, fun hnames => ?_⟩
      · rw [takenTypes, hctor, List.map_cons, hstring]
        exact .cons (.string _) (List.forall₂_same.2 fun type _ => .refl type)
      · have hrest : rest ⊆ member.params := by
          rw [hparams, hctor]
          exact fun _ hmem => List.mem_append_left _ (List.mem_cons_of_mem _ hmem)
        rw [List.map_cons, map_argType?_params hnames hrest]
        rfl
  | plain _ =>
      exact ⟨takenTypes ctor, List.forall₂_same.2 fun type _ => .refl type,
        fun hnames => map_argType?_params hnames (hparams ▸ List.Subset.refl _)⟩

theorem Takes.creations_eq_nil {ctor : ConstructorDecl} {params : List Parameter}
    {args : List Expr} (h : Takes ctor params args) : Expr.creationsIn args = [] := by
  refine Expr.creationsIn_eq_nil ?_
  cases h with
  | formatted hctor _ => exact List.forall_mem_cons.2 ⟨rfl, List.forall_mem_map.2 fun _ _ => rfl⟩
  | plain _ => exact List.forall_mem_map.2 fun _ _ => rfl

theorem makesOnce_factory (config : Config) (aliasName : String) (decl : TypeDecl)
    (ctor : ConstructorDecl) :
    ∃ types, List.Forall₂ Respelled types (takenTypes ctor) ∧
      MakesOnce decl types (factory aliasName decl (wrapperHead config decl) ctor) := by
  obtain ⟨args, htakes, hbody⟩ :=
    (makesWrapper_factory aliasName decl (wrapperHead config decl) ctor).makes
  obtain ⟨types, hspelled, htypes⟩ := htakes.exists_types
  refine ⟨types, hspelled, @MakesOnce.intro _ _ _
    [.newObject (wrapperHead config decl).classRef decl.isGeneric
      [.newObject decl.classRef decl.isGeneric args]] decl.isGeneric args ?_ ?_ htypes⟩
  · rw [hbody]
    simp [bodyCreations, Stmt.creations, Expr.creations, Expr.creationsIn, htakes.creations_eq_nil]
  · exact List.forall_mem_singleton.2 ⟨_, _, _, rfl, classRef_wrapperHead_ne config decl⟩

/-! ### Accessors -/

/-- The type of what is passed for a parameter in a role, with the type of what is passed for a
class token. -/
def Role.passedType (tokenType : TypeParam → TypeExpr) (param : Parameter) : Role → TypeExpr
  | tokenArray => .array (.ofLibrary .reflectType [])
  | token typeParam => tokenType typeParam
  | plain => param.type

/-- The types of the arguments that an accessor passes to a constructor. -/
def passedTypes (typeParams : List TypeParam) (tokenType : TypeParam → TypeExpr)
    (params : List Parameter) : List TypeExpr :=
  (roles typeParams params).map fun (param, role) => role.passedType tokenType param

theorem mem_takenParams_of_plain {typeParams : List TypeParam} {params : List Parameter}
    {param : Parameter} (h : (param, Role.plain) ∈ roles typeParams params) :
    param ∈ takenParams typeParams params :=
  List.mem_flatMap.2 ⟨_, h, List.mem_singleton_self param⟩

theorem mem_takenParams_of_token {typeParams : List TypeParam} {params : List Parameter}
    {param : Parameter} {typeParam : TypeParam}
    (h : (param, Role.token typeParam) ∈ roles typeParams params) :
    { name := param.name, type := classToken typeParam } ∈ takenParams typeParams params :=
  List.mem_flatMap.2 ⟨_, h, List.mem_singleton_self _⟩

/-- A member that parses passes arguments of the types of their roles. -/
theorem Parses.makesOnce {decl : TypeDecl} {ctor : ConstructorDecl} {locals : List Stmt}
    {token : String → Expr} {tokenType : TypeParam → TypeExpr} {member : Java.Member}
    (h : Parses decl ctor locals token member) (hlocals : bodyCreations locals = [])
    (hcreations : ∀ name, (token name).creations = [])
    (htoken : (member.typedNames.map Prod.fst).Nodup → ∀ param typeParam,
      (param, Role.token typeParam) ∈ roles decl.typeParams ctor.params →
        member.argType? [formatMethod] (token param.name) = some (tokenType typeParam)) :
    MakesOnce decl (passedTypes decl.typeParams tokenType ctor.params) member := by
  have hargs : Expr.creationsIn (passedArgs decl.typeParams token ctor.params) = [] := by
    refine Expr.creationsIn_eq_nil (List.forall_mem_map.2 ?_)
    rintro ⟨param, role⟩ -
    cases role with
    | tokenArray => exact Expr.creationsIn_eq_nil (List.forall_mem_map.2 fun _ _ => hcreations _)
    | token _ => exact hcreations _
    | plain => rfl
  refine @MakesOnce.intro _ _ _ [] decl.isGeneric
    (passedArgs decl.typeParams token ctor.params) ?_ (List.forall_mem_nil _) ?_
  · rw [h.body, bodyCreations_append, hlocals]
    simp [bodyCreations, Stmt.creations, Expr.creations, Expr.creationsIn, hargs]
  · intro hnames
    rw [passedArgs, passedTypes, List.map_map, List.map_map]
    refine List.map_congr_left ?_
    rintro ⟨param, role⟩ hrole
    cases role with
    | tokenArray => rfl
    | token typeParam => exact htoken hnames param typeParam hrole
    | plain => exact Member.argType?_param hnames (h.params ▸ mem_takenParams_of_plain hrole)

/-- The accessor of a constructor passes its class tokens as they are. -/
theorem makesOnce_accessor (observable name : String) (decl : TypeDecl) (product : TypeExpr)
    (ctor : ConstructorDecl) :
    MakesOnce decl (passedTypes decl.typeParams classToken ctor.params)
      (accessor observable name decl product ctor) := by
  have hparses := parses_accessor observable name decl product ctor
  refine hparses.makesOnce rfl (fun _ => rfl) fun hnames param typeParam hrole => ?_
  exact Member.argType?_param hnames (hparses.params ▸ mem_takenParams_of_token hrole)

/-- An accessor that parses into a container passes type tokens. -/
theorem makesOnce_containerAccessor (observable name : String) (decl : TypeDecl)
    (product : TypeExpr) (ctor : ConstructorDecl) (container : ClassRef) :
    MakesOnce decl (passedTypes decl.typeParams (fun _ => .ofLibrary .reflectType []) ctor.params)
      (containerAccessor observable name decl product ctor container) := by
  have hparses := parses_containerAccessor observable name decl product ctor container
  refine hparses.makesOnce ?_ (fun _ => rfl) fun hnames param typeParam hrole => ?_
  · exact bodyCreations_eq_nil (List.forall_mem_map.2 fun _ _ => rfl)
  · have htoken : param.name ∈ tokenNames decl.typeParams ctor.params :=
      List.mem_flatMap.2 ⟨_, hrole, List.mem_singleton_self _⟩
    have hlocal : containerToken container param.name ∈
        (containerAccessor observable name decl product ctor container).body :=
      hparses.body ▸ List.mem_append_left _ (List.mem_map_of_mem htoken)
    exact Member.argType?_local hnames hlocal

/-- In the role of an array of type tokens or of a single one there are only such. -/
theorem type_of_mem_roles {typeParams : List TypeParam} {params : List Parameter}
    {param : Parameter} {role : Role} (h : (param, role) ∈ roles typeParams params) :
    (role = .tokenArray → ∃ args, param.type = .array (.ofLibrary .reflectType args)) ∧
      ∀ typeParam, role = .token typeParam → ∃ args, param.type = .ofLibrary .reflectType args := by
  obtain ⟨place, _, heq⟩ := List.mem_mapIdx.1 h
  obtain ⟨rfl, rfl⟩ := Prod.mk.inj heq
  rw [Role.of]
  split
  · next harray =>
      refine ⟨fun _ => TypeExpr.isArrayOf_iff.1 harray, fun _ hrole => ?_⟩
      cases hrole
  · split
    · next htoken =>
        refine ⟨fun hrole => ?_, fun _ _ => TypeExpr.isLibrary_iff.1 htoken⟩
        cases hnext : typeParams[tokensBefore params place]? <;> simp [hnext] at hrole
    · refine ⟨fun hrole => ?_, fun _ hrole => ?_⟩
      · cases hrole
      · cases hrole

/-- Where type tokens are passed for class tokens, a constructor gets what it takes. -/
theorem respelled_passedTypes {typeParams : List TypeParam} {tokenType : TypeParam → TypeExpr}
    {params : List Parameter}
    (h : ∀ param typeParam, (param, Role.token typeParam) ∈ roles typeParams params →
      tokenType typeParam = .ofLibrary .reflectType []) :
    List.Forall₂ Respelled (passedTypes typeParams tokenType params) (params.map (·.type)) := by
  conv => arg 3; rw [← map_fst_roles typeParams params]
  rw [passedTypes, List.map_map, List.forall₂_map_left_iff, List.forall₂_map_right_iff,
    List.forall₂_same]
  rintro ⟨param, role⟩ hrole
  cases role with
  | tokenArray =>
      obtain ⟨args, htype⟩ := (type_of_mem_roles hrole).1 rfl
      change Respelled (.array (.ofLibrary .reflectType [])) param.type
      rw [htype]
      exact .array (.token args)
  | token typeParam =>
      obtain ⟨args, htype⟩ := (type_of_mem_roles hrole).2 typeParam rfl
      change Respelled (tokenType typeParam) param.type
      rw [h param typeParam hrole, htype]
      exact .token args
  | plain => exact .refl _

/-- A constructor captures the accessor that is made for another one: the class tokens that the
accessor passes in the place of type tokens resolve to it. -/
structure Captures (fits : TypeExpr → TypeExpr → Prop) (package : String) (decl : TypeDecl)
    (ctor other : ConstructorDecl) : Prop where
  ne : other ≠ ctor
  names : ((takenParams decl.typeParams ctor.params).map (·.name)).Nodup
  resolves : Resolves fits package decl (passedTypes decl.typeParams classToken ctor.params) other

section Accessors

variable {fits : TypeExpr → TypeExpr → Prop} {config : Config} {decl : TypeDecl}

/-- Only an accessor that passes a single class token can be captured. -/
theorem Captures.exists_token {package : String} {ctor other : ConstructorDecl}
    (h : Captures fits package decl ctor other) (hfits : IsFit fits)
    (hctor : ctor ∈ decl.publicConstructors) :
    ∃ param typeParam, (param, Role.token typeParam) ∈ roles decl.typeParams ctor.params := by
  by_contra hnone
  obtain ⟨hdeclared, hpublic⟩ := List.mem_filter.1 hctor
  refine h.ne (h.resolves.eq_of_respelled hfits hdeclared (.inl hpublic)
    (respelled_passedTypes fun param typeParam hrole => ?_))
  exact absurd ⟨param, typeParam, hrole⟩ hnone

theorem typedNames_accessor (observable name : String) (product : TypeExpr)
    (ctor : ConstructorDecl) :
    (accessor observable name decl product ctor).typedNames.map Prod.fst =
      (takenParams decl.typeParams ctor.params).map (·.name) := by
  have hparses := parses_accessor observable name decl product ctor
  rw [Member.typedNames, hparses.params, hparses.body]
  simp [Stmt.typedLocal?, Function.comp_def]

/-- An accessor declares all exceptions unless another constructor captures it that has more. -/
theorem declaresThrows_accessor_iff {package observable name : String} {product : TypeExpr}
    {ctor : ConstructorDecl} :
    DeclaresThrows fits package decl (accessor observable name decl product ctor) ↔
      ∀ other, Captures fits package decl ctor other → other.throws ⊆ ctor.throws := by
  refine forall_congr' fun other => ?_
  rw [(makesOnce_accessor observable name decl product ctor).invokes_iff, typedNames_accessor]
  constructor
  · exact fun h hcaptures => h ⟨hcaptures.names, hcaptures.resolves⟩
  · rintro h ⟨hnames, hresolves⟩
    by_cases heq : other = ctor
    · exact heq ▸ List.Subset.refl _
    · exact h ⟨heq, hnames, hresolves⟩

/-- The accessors that parse into containers always do, as they pass type tokens. -/
theorem declaresThrows_containerAccessor (hfits : IsFit fits) {package : String}
    {ctor : ConstructorDecl} (hctor : ctor ∈ decl.publicConstructors) (observable name : String)
    (product : TypeExpr) (container : ClassRef) :
    DeclaresThrows fits package decl
      (containerAccessor observable name decl product ctor container) :=
  (makesOnce_containerAccessor observable name decl product ctor container).declaresThrows hfits
    hctor (respelled_passedTypes fun _ _ _ => rfl) rfl

theorem declaresThrows_accessorsOf_iff (hfits : IsFit fits) {package observable name : String}
    {product : TypeExpr} {refs : List ClassRef} {ctor : ConstructorDecl}
    (hctor : ctor ∈ decl.publicConstructors) :
    (∀ member ∈ accessorsOf observable name decl product refs ctor,
        DeclaresThrows fits package decl member) ↔
      ∀ other, Captures fits package decl ctor other → other.throws ⊆ ctor.throws := by
  rw [accessorsOf, List.forall_mem_cons, declaresThrows_accessor_iff]
  refine and_iff_left ?_
  split
  · exact List.forall_mem_map.2 fun container _ =>
      declaresThrows_containerAccessor hfits hctor observable name product container
  · exact List.forall_mem_nil _

end Accessors

/-! ### Extensions -/

section Extensions

variable {fits : TypeExpr → TypeExpr → Prop} {package name : String} {decl : TypeDecl}
  {product : TypeExpr}

theorem makesOnce_extension (ctor : ConstructorDecl) :
    MakesOnce decl (takenTypes ctor) (extension name decl product ctor (newParser decl ctor)) := by
  have hextension := passesOnToRequest_extension name decl product ctor
  have hargs : Expr.creationsIn (ctor.params.map (Expr.variable ·.name)) = [] :=
    Expr.creationsIn_eq_nil (List.forall_mem_map.2 fun _ _ => rfl)
  refine @MakesOnce.intro _ _ _ [] false (ctor.params.map (Expr.variable ·.name)) ?_
    (List.forall_mem_nil _) fun hnames => map_argType?_params hnames ?_
  · rw [hextension.body]
    simp [bodyCreations, Stmt.creations, Expr.creations, Expr.creationsIn, newParser, hargs]
  · rw [hextension.params]
    exact List.subset_cons_self _ _

/-- The extension of a generic parser declares no exceptions, whatever the constructor without
parameters declares. -/
theorem declaresThrows_subclassing_iff :
    DeclaresThrows fits package decl
        (extension name decl product {} (.newSubclass decl.selfType [])) ↔
      ∀ ctor, decl.noArgConstructor? = some ctor → ctor.throws = [] := by
  have hcreations : bodyCreations
      (extension name decl product {} (.newSubclass decl.selfType [])).body =
        [.newSubclass decl.selfType []] := rfl
  refine forall_congr' fun ctor => ?_
  have hinvokes : Invokes fits package decl
      (extension name decl product {} (.newSubclass decl.selfType [])) ctor ↔
        decl.noArgConstructor? = some ctor := by
    constructor
    · intro hinvokes
      cases hinvokes with
      | object hcreates _ _ _ =>
          rw [hcreations, List.mem_singleton] at hcreates
          cases hcreates
      | subclass _ hctor => exact hctor
    · exact fun hctor => .subclass (hcreations ▸ List.mem_singleton_self _) hctor
  rw [hinvokes]
  exact imp_congr_right fun _ => List.subset_nil

end Extensions

/-! ### All members -/

theorem exists_noArgConstructor_of_checkType {config : Config} {round : Round} {decl : TypeDecl}
    (h : Contract.checkType config round .parser decl = .ok ()) (hgeneric : decl.isGeneric = true) :
    ∃ ctor, decl.noArgConstructor? = some ctor := by
  have hclauses := Contract.checkType_eq_ok_iff.1 h
  simp only [Contract.ofType, hgeneric, if_true, Contract.genericParser,
    List.forall_mem_append, List.forall_mem_cons] at hclauses
  exact Option.isSome_iff_exists.1 hclauses.1.2.2.1

/-- **Exceptions of members that make an instance.** All factories, the extensions of parsers
without type parameters and the accessors that parse into containers declare all exceptions of the
constructor that they run. The other accessors do unless their class tokens resolve to a constructor
that has more exceptions than the one they are made for, which takes a class token in the place of a
single type token. The extension of a generic parser that meets its contract does so exactly if the
parser's constructor without parameters has no exceptions. -/
theorem declaresThrows_iff {fits : TypeExpr → TypeExpr → Prop} (hfits : IsFit fits)
    (config : Config) (round : Round) (aliasName : String) (decl : TypeDecl) :
    (∀ member ∈ factories config aliasName decl,
      DeclaresThrows fits config.package decl member) ∧
    ((∀ member ∈ accessorList config aliasName decl,
        DeclaresThrows fits config.package decl member) ↔
      (accessorList config aliasName decl ≠ [] → ∀ ctor ∈ decl.publicConstructors, ∀ other,
        Captures fits config.package decl ctor other → other.throws ⊆ ctor.throws)) ∧
    (∀ ctor ∈ decl.publicConstructors, ∀ other, Captures fits config.package decl ctor other →
      ∃ param typeParam, (param, Role.token typeParam) ∈ roles decl.typeParams ctor.params) ∧
    (decl.isGeneric = false → ∀ member ∈ (extensions aliasName decl).getD [],
      DeclaresThrows fits config.package decl member) ∧
    (Contract.checkType config round .parser decl = .ok () → decl.isGeneric = true →
      decl.product?.isSome = true → ∃ ctor, decl.noArgConstructor? = some ctor ∧
        ((∀ member ∈ (extensions aliasName decl).getD [],
          DeclaresThrows fits config.package decl member) ↔ ctor.throws = [])) := by
  refine ⟨?_, ?_, fun ctor hctor other hcaptures => hcaptures.exists_token hfits hctor, ?_, ?_⟩
  · refine List.forall_mem_map.2 fun ctor hctor => ?_
    obtain ⟨types, hspelled, hmakes⟩ := makesOnce_factory config aliasName decl ctor
    exact hmakes.declaresThrows hfits hctor hspelled rfl
  · rcases accessorList_cases config aliasName decl with
      hnil | ⟨observable, product, -, -, -, hlist⟩
    · rw [hnil]
      exact iff_of_true (List.forall_mem_nil _) fun hne => absurd rfl hne
    · by_cases hnil : accessorList config aliasName decl = []
      · rw [hnil]
        exact iff_of_true (List.forall_mem_nil _) fun hne => absurd rfl hne
      · rw [forall_prop_of_true hnil, hlist, List.forall_mem_flatMap]
        exact forall₂_congr fun ctor hctor => declaresThrows_accessorsOf_iff hfits hctor
  · intro hgeneric
    rcases extensions_cases aliasName decl with hnil | ⟨product, -, hlist⟩
    · rw [hnil]
      exact List.forall_mem_nil _
    · rw [hlist, hgeneric]
      exact List.forall_mem_map.2 fun ctor hctor => (makesOnce_extension ctor).declaresThrows hfits
        hctor (List.forall₂_same.2 fun type _ => .refl type) rfl
  · intro hcontract hgeneric hproduct
    obtain ⟨ctor, hctor⟩ := exists_noArgConstructor_of_checkType hcontract hgeneric
    refine ⟨ctor, hctor, ?_⟩
    obtain ⟨product, hproduct⟩ := Option.isSome_iff_exists.1 hproduct
    have hlist : (extensions aliasName decl).getD [] =
        [extension ("to" ++ aliasName) decl product {} (.newSubclass decl.selfType [])] := by
      rw [extensions, hproduct, Option.map_some, Option.getD_some, hgeneric]
      rfl
    rw [hlist, List.forall_mem_singleton, declaresThrows_subclassing_iff, hctor]
    simp

/-! ### Types without arguments -/

/-- A type without type arguments. -/
def erasure : TypeExpr → TypeExpr
  | .named name _ => .named name []
  | .array component => .array (erasure component)
  | type => type

/-- An argument fits if it is of the same type up to type arguments, or a class where a type token
is taken. -/
def ErasedFit (type wider : TypeExpr) : Prop :=
  erasure type = erasure wider ∨
    type.isLibrary .classToken = true ∧ wider.isLibrary .reflectType = true

theorem isFit_erasedFit : IsFit ErasedFit where
  refl _ := .inl rfl
  respelled := by
    intro type other hspelled wider
    have herasure : erasure type = erasure other := by
      induction hspelled with
      | refl _ => rfl
      | string _ | token _ => rfl
      | array _ ih => exact congrArg TypeExpr.array ih
    have hclass : type.isLibrary .classToken = other.isLibrary .classToken := by
      cases hspelled with
      | refl _ => rfl
      | string _ | token _ => simp [TypeExpr.isLibrary, TypeExpr.library?_ofLibrary]
      | array _ => rfl
    rw [ErasedFit, ErasedFit, herasure, hclass]

theorem declaresThrows_iff_pageParser :
    let parser := pageParser [tokenConstructor] (.variable "T")
    let texts := textParser [charsetConstructor]
    let package := ({} : Config).package
    IsFit ErasedFit ∧ texts.isGeneric = false ∧
      (∀ member ∈ (extensions "Text" texts).getD [],
        DeclaresThrows ErasedFit package texts member) ∧
      Contract.checkType {} { types := [parser] } .parser parser = .ok () ∧
      parser.isGeneric = true ∧ parser.product?.isSome = true ∧
      (∀ member ∈ accessorList {} "Page" parser ++ (extensions "Page" parser).getD [],
        DeclaresThrows ErasedFit package parser member) ∧
      ∃ member ∈ accessorList {} "Page" parser,
        Invokes ErasedFit package parser member tokenConstructor := by
  intro parser texts package
  have hcontract : Contract.checkType {} { types := [parser] } .parser parser = .ok () :=
    Contract.checkType_pageParser _ _ (by decide)
  have hproduct : parser.product?.isSome = true := by rw [product?_pageParser, Option.isSome_some]
  have hconstructors : parser.constructors =
      [{ modifiers := { isProtected := true } }, tokenConstructor] :=
    constructors_pageParser
  obtain ⟨-, -, -, htexts, -⟩ :=
    declaresThrows_iff isFit_erasedFit {} { types := [texts] } "Text" texts
  obtain ⟨-, haccessors, -, -, hextensions⟩ :=
    declaresThrows_iff isFit_erasedFit {} { types := [parser] } "Page" parser
  refine ⟨isFit_erasedFit, rfl, htexts rfl, hcontract, rfl, hproduct, ?_, ?_⟩
  · refine List.forall_mem_append.2 ⟨haccessors.2 fun _ ctor _ other hcaptures => ?_, ?_⟩
    · -- no constructor has exceptions
      have hother := hcaptures.resolves.declared
      rw [hconstructors] at hother
      rcases List.mem_pair.1 hother with rfl | rfl <;> exact List.nil_subset _
    · obtain ⟨ctor, hctor, hiff⟩ := hextensions hcontract rfl hproduct
      refine hiff.2 ?_
      obtain rfl := Option.some.inj hctor
      rfl
  · have hmember : accessor "io.reactivex.rxjava3.core.Observable" "asPage" parser (.variable "T")
        tokenConstructor ∈ accessorList {} "Page" parser := by
      have hlist : accessors {} "Page" parser parser.wrappers = _ :=
        accessors_of_not_clash rfl product?_pageParser not_accessorsClash_nil
      rw [accessorList, hlist]
      exact List.mem_flatMap.2 ⟨tokenConstructor, by decide, List.mem_cons_self⟩
    refine ⟨_, hmember, ?_⟩
    have htoken : ErasedFit (classToken { name := "T" }) (.ofLibrary .reflectType []) :=
      .inr ⟨by decide, by decide⟩
    refine (makesOnce_accessor _ _ parser _ tokenConstructor).invokes_iff.2 ⟨by decide, ?_⟩
    refine ⟨by decide, .inl rfl, .cons htoken .nil, fun other hother _ hfit hne => ?_⟩
    rw [hconstructors] at hother
    rcases List.mem_pair.1 hother with rfl | rfl
    · cases hfit
    · exact absurd rfl hne

/-- The parser whose constructor for subclasses has an exception. -/
def failingParser : TypeDecl :=
  { pageParser [tokenConstructor] (.variable "T") with
    members :=
      .constructor
          { modifiers := { isProtected := true }, throws := [.named "java.io.IOException" []] }
        :: (pageParser [tokenConstructor] (.variable "T")).members.tail }

/-- The extension of such a parser runs that constructor and declares no exceptions. -/
theorem not_declaresThrows_failingParser :
    let package := ({} : Config).package
    Contract.checkType {} { types := [failingParser] } .parser failingParser = .ok () ∧
      ∃ member ctor, extensions "Page" failingParser = some [member] ∧
        Invokes ErasedFit package failingParser member ctor ∧
        ctor.throws = [.named "java.io.IOException" []] ∧ member.throws = [] ∧
        ¬DeclaresThrows ErasedFit package failingParser member := by
  intro package
  have hcontract : Contract.checkType {} { types := [failingParser] } .parser failingParser =
      .ok () := by
    have hreaches :
        ({ types := [failingParser] } : Round).declReaches failingParser .parser = true :=
      Round.declReaches_of_superclass _ rfl rfl
    rw [Contract.checkType_eq_ok_iff, Contract.ofType, Contract.inherits, hreaches]
    exact List.all_eq_true.1 (by decide)
  have hinvokes : Invokes ErasedFit package failingParser
      (extension "toPage" failingParser (.variable "T") {} (.newSubclass failingParser.selfType []))
      { modifiers := { isProtected := true }, throws := [.named "java.io.IOException" []] } :=
    .subclass (List.mem_singleton_self _) rfl
  refine ⟨hcontract, _, _, rfl, hinvokes, rfl, rfl, fun hdeclares => ?_⟩
  exact List.cons_ne_nil _ _ (List.subset_nil.1 (hdeclares _ hinvokes))

end FluentHttp.Api
