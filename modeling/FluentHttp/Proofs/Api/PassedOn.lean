import FluentHttp.Api.Extension
import FluentHttp.Proofs.Api.Places

/-!
# FluentHttp.Proofs.Api.PassedOn

The accessors and the extensions of a parser without type parameters. Both are meant to take what a
constructor takes and to pass it on. The extensions do. The accessors do unless the constructor
takes an array of type tokens: as there is no type parameter to take a class token for, such a
parameter is left out and an empty array is passed instead (`accessors_of_not_generic`).
-/

namespace FluentHttp.Api

open Java

/-! ### Roles without type parameters -/

/-- Without type parameters the place of a parameter does not matter. -/
theorem roles_nil (params : List Parameter) :
    roles [] params = params.map fun param =>
      (param, if isTokenArray param then .tokenArray else .plain) := by
  have hrole : ∀ before param, Role.of [] before param =
      if isTokenArray param then .tokenArray else .plain := by
    intro before param
    split
    · next harray => exact Role.of_of_isTokenArray harray
    · next harray => exact Role.of_of_plain (by simpa using harray) (.inl (Nat.zero_le _))
  simp only [roles, hrole]
  exact List.ext_getElem? fun place => by simp

/-- Arrays of type tokens are left out. -/
theorem takenParams_nil (params : List Parameter) :
    takenParams [] params = params.filter (!isTokenArray ·) := by
  rw [takenParams, roles_nil, List.flatMap_map]
  induction params with
  | nil => rfl
  | cons param rest ih =>
      rw [List.flatMap_cons, ih]
      cases harray : isTokenArray param <;> simp [harray, Role.taken]

/-- They are passed as empty arrays. -/
theorem passedArgs_nil (token : String → Expr) (params : List Parameter) :
    passedArgs [] token params = params.map fun param =>
      if isTokenArray param then .newArray (.ofLibrary .reflectType []) []
      else .variable param.name := by
  rw [passedArgs, roles_nil, List.map_map]
  refine List.map_congr_left fun param _ => ?_
  cases harray : isTokenArray param <;> simp [harray, Role.passed]

/-! ### Members that pass on -/

/-- A new parser, made with parameters named like those of the constructor. -/
def newParser (decl : TypeDecl) (ctor : ConstructorDecl) : Expr :=
  .newObject decl.classRef false (ctor.params.map (.variable ·.name))

/-- A member fails like a constructor and takes as many arguments. -/
structure LikeConstructor (ctor : ConstructorDecl) (member : Java.Member) : Prop where
  throws : member.throws = ctor.throws
  varargs : member.varargs = true ↔
    ctor.varargs = true ∧ ∃ last, ctor.params.getLast? = some last ∧ last.type.isArray = true

/-- An accessor takes what the constructor takes and passes all of it on. -/
structure PassesOn (decl : TypeDecl) (ctor : ConstructorDecl) (member : Java.Member) : Prop where
  like : LikeConstructor ctor member
  params : member.params = ctor.params
  body : member.body = [.result (.localCall "asParser" [newParser decl ctor])]

/-- An extension takes what the constructor takes after the request, and passes all of it on. -/
structure PassesOnToRequest (decl : TypeDecl) (ctor : ConstructorDecl) (member : Java.Member) :
    Prop where
  like : LikeConstructor ctor member
  params : member.params = { name := "rxHttp", type := .named "rxhttp.IRxHttp" [] } :: ctor.params
  body : member.body =
    [.result (.staticCall { name := "rxhttp.IRxHttpKt" } "toParser"
      [.variable "rxHttp", newParser decl ctor,
        .call (.variable "rxHttp") "getOkHttpClient" []])]

theorem takesVarargs_iff {varargs : Bool} {params : List Parameter} :
    takesVarargs varargs params = true ↔
      varargs = true ∧ ∃ last, params.getLast? = some last ∧ last.type.isArray = true := by
  rw [takesVarargs, Bool.and_eq_true, Option.any_eq_true]

/-- The receiver is no array, so it never takes a variable number of arguments. -/
theorem takesVarargs_receiver (varargs : Bool) (params : List Parameter) :
    takesVarargs varargs (receiver :: params) = takesVarargs varargs params := by
  cases params with
  | nil => rfl
  | cons param rest => rw [takesVarargs, List.getLast?_cons_cons, takesVarargs]

theorem passesOnToRequest_extension (name : String) (decl : TypeDecl) (product : TypeExpr)
    (ctor : ConstructorDecl) :
    PassesOnToRequest decl ctor (extension name decl product ctor (newParser decl ctor)) := by
  refine ⟨⟨rfl, ?_⟩, rfl, rfl⟩
  rw [← takesVarargs_iff, ← takesVarargs_receiver]
  rfl

/-- The extensions of a parser without type parameters pass on what its public constructors take. -/
theorem extensions_of_not_generic {aliasName : String} {decl : TypeDecl} {product : TypeExpr}
    (hproduct : decl.product? = some product) (hgeneric : decl.typeParams = []) :
    extensions aliasName decl =
      some (decl.publicConstructors.map fun ctor =>
        extension ("to" ++ aliasName) decl product ctor (newParser decl ctor)) := by
  have hisGeneric : decl.isGeneric = false := by simp [TypeDecl.isGeneric, hgeneric]
  rw [extensions, hproduct, Option.map_some, hisGeneric]
  rfl

/-- A parser without type parameters has one accessor for each public constructor. -/
theorem accessors_eq_map_of_not_generic {config : Config} {aliasName observable : String}
    {decl : TypeDecl} {product : TypeExpr} (wrappers : List TypeExpr)
    (hobservable : config.reactive.observable? = some observable)
    (hproduct : decl.product? = some product) (hgeneric : decl.typeParams = []) :
    accessors config aliasName decl wrappers =
      .ok (some (decl.publicConstructors.map
        (accessor observable ("as" ++ aliasName) decl product))) := by
  have hone : ¬decl.typeParams.length = 1 := by simp [hgeneric]
  have hcontainers : accessorContainers decl wrappers = [] := if_neg hone
  have hsingle : accessorsOf observable ("as" ++ aliasName) decl product [] =
      fun ctor => [accessor observable ("as" ++ aliasName) decl product ctor] := by
    funext ctor
    rw [accessorsOf, List.map_nil, ite_self]
  rw [accessors_of_not_clash hobservable hproduct fun hclash => hone hclash.1, hcontainers,
    hsingle, List.map_eq_flatMap]

section NotGeneric

variable {decl : TypeDecl} (hgeneric : decl.typeParams = []) (observable name : String)
  (product : TypeExpr) (ctor : ConstructorDecl)

include hgeneric

theorem params_accessor_of_not_generic :
    (accessor observable name decl product ctor).params =
      ctor.params.filter (!isTokenArray ·) := by
  rw [(parses_accessor observable name decl product ctor).params, hgeneric, takenParams_nil]

theorem body_accessor_of_not_generic :
    (accessor observable name decl product ctor).body =
      [.result (.localCall "asParser"
        [.newObject decl.classRef false (ctor.params.map fun param =>
          if isTokenArray param then .newArray (.ofLibrary .reflectType []) []
          else .variable param.name)])] := by
  have hisGeneric : decl.isGeneric = false := by simp [TypeDecl.isGeneric, hgeneric]
  rw [(parses_accessor observable name decl product ctor).body, hgeneric, passedArgs_nil,
    hisGeneric]
  rfl

/-- An accessor takes all that the constructor takes exactly if that is no array of type tokens. -/
theorem params_accessor_eq_iff :
    (accessor observable name decl product ctor).params = ctor.params ↔
      ∀ param ∈ ctor.params, isTokenArray param = false := by
  rw [params_accessor_of_not_generic hgeneric, List.filter_eq_self]
  simp

theorem passesOn_accessor_iff :
    PassesOn decl ctor (accessor observable name decl product ctor) ↔
      ∀ param ∈ ctor.params, isTokenArray param = false := by
  refine ⟨fun h => (params_accessor_eq_iff hgeneric ..).1 h.params, fun h => ?_⟩
  have hparams := (params_accessor_eq_iff hgeneric observable name product ctor).2 h
  refine ⟨⟨rfl, ?_⟩, hparams, ?_⟩
  · rw [← takesVarargs_iff, ← hparams]
    rfl
  · have hargs : ∀ param ∈ ctor.params,
        (if isTokenArray param then .newArray (.ofLibrary .reflectType []) []
          else .variable param.name) = Expr.variable param.name :=
      fun param hmem => if_neg (Bool.eq_false_iff.1 (h param hmem))
    rw [body_accessor_of_not_generic hgeneric, List.map_congr_left hargs]
    rfl

end NotGeneric

/-! ### Accessors and extensions -/

/-- An accessor and an extension take the same parameters, apart from the request, and make the same
parser. -/
structure Agree (accessor extension : Java.Member) : Prop where
  params : ∃ request, extension.params = request :: accessor.params
  body : ∃ parser request others,
    accessor.body = [.result (.localCall "asParser" [parser])] ∧
      extension.body =
        [.result (.staticCall { name := "rxhttp.IRxHttpKt" } "toParser"
          (request :: parser :: others))]

/-- An extension passes on what the constructor takes, so it agrees with an accessor that does. -/
theorem agree_iff_of_passesOnToRequest {decl : TypeDecl} {ctor : ConstructorDecl}
    {accessor extension : Java.Member} (hextension : PassesOnToRequest decl ctor extension)
    (haccessor : PassesOn decl ctor accessor ↔ accessor.params = ctor.params) :
    Agree accessor extension ↔ PassesOn decl ctor accessor := by
  constructor
  · rintro ⟨⟨request, hparams⟩, -⟩
    rw [hextension.params] at hparams
    exact haccessor.2 (List.cons.inj hparams).2.symm
  · intro hpasses
    exact ⟨⟨_, hpasses.params ▸ hextension.params⟩, _, _, _, hpasses.body, hextension.body⟩

/-- **The accessors of a parser without type parameters.** Each public constructor has one accessor
and one extension. The extension always takes what the constructor takes and passes it on. The
accessor does so, and agrees with the extension, exactly if the constructor takes no array of type
tokens: it leaves these out, and passes an empty array for each. -/
theorem accessors_of_not_generic {config : Config} {aliasName observable : String}
    {decl : TypeDecl} {product : TypeExpr} (wrappers : List TypeExpr)
    (hobservable : config.reactive.observable? = some observable)
    (hproduct : decl.product? = some product) (hgeneric : decl.typeParams = []) :
    ∃ own ext : ConstructorDecl → Java.Member,
      accessors config aliasName decl wrappers =
        .ok (some (decl.publicConstructors.map own)) ∧
      extensions aliasName decl = some (decl.publicConstructors.map ext) ∧
      ∀ ctor, PassesOnToRequest decl ctor (ext ctor) ∧
        (PassesOn decl ctor (own ctor) ↔ ∀ param ∈ ctor.params, isTokenArray param = false) ∧
        (Agree (own ctor) (ext ctor) ↔ ∀ param ∈ ctor.params, isTokenArray param = false) ∧
        (own ctor).throws = ctor.throws ∧
        (own ctor).params =
          ctor.params.filter (!isTokenArray ·) ∧
        (own ctor).body =
          [.result (.localCall "asParser"
            [.newObject decl.classRef false (ctor.params.map fun param =>
              if isTokenArray param then .newArray (.ofLibrary .reflectType []) []
              else .variable param.name)])] := by
  refine ⟨_, _, accessors_eq_map_of_not_generic wrappers hobservable hproduct hgeneric,
    extensions_of_not_generic hproduct hgeneric, fun ctor => ?_⟩
  have hextension := passesOnToRequest_extension ("to" ++ aliasName) decl product ctor
  have haccessor :=
    passesOn_accessor_iff hgeneric observable ("as" ++ aliasName) product ctor
  have hparams := params_accessor_eq_iff hgeneric observable ("as" ++ aliasName) product ctor
  exact ⟨hextension, haccessor,
    (agree_iff_of_passesOnToRequest hextension (haccessor.trans hparams.symm)).trans haccessor,
    rfl, params_accessor_of_not_generic hgeneric .., body_accessor_of_not_generic hgeneric ..⟩

/-- A parser of texts. -/
def textParser (ctors : List ConstructorDecl) : TypeDecl :=
  { name := "com.example.TextParser"
    modifiers := { isPublic := true }
    superclass := some (.ofLibrary .abstractParser [.ofLibrary .string []])
    members :=
      .method
        { name := "onParse"
          modifiers := { isPublic := true }
          params := [{ name := "response", type := .ofLibrary .response [] }]
          returnType := .ofLibrary .string [] } :: ctors.map .constructor
    annotation := some (.parser "Text" []) }

/-- A constructor for a character set and a single type token. -/
def charsetConstructor : ConstructorDecl :=
  publicConstructor
    [{ name := "charset", type := .ofLibrary .string [] },
      { name := "type", type := .ofLibrary .reflectType [] }]

theorem accessors_of_not_generic_charsetConstructor :
    let parser := textParser [charsetConstructor]
    ∃ accessor extension : Java.Member,
      accessors {} "Text" parser [] = .ok (some [accessor]) ∧
        extensions "Text" parser = some [extension] ∧
        PassesOn parser charsetConstructor accessor ∧ Agree accessor extension := by
  intro parser
  have hobservable : ({} : Config).reactive.observable? =
      some "io.reactivex.rxjava3.core.Observable" := rfl
  have hproduct : parser.product? = some (.ofLibrary .string []) := by decide
  obtain ⟨own, ext, hown, hext, hall⟩ :=
    @accessors_of_not_generic _ "Text" _ parser _ [] hobservable hproduct rfl
  obtain ⟨-, hpasses, hagree, -⟩ := hall charsetConstructor
  have hnone : ∀ param ∈ charsetConstructor.params, isTokenArray param = false := by
    intro param hparam
    rcases List.mem_pair.1 hparam with rfl | rfl <;> rfl
  exact ⟨_, _, hown, hext, hpasses.2 hnone, hagree.2 hnone⟩

/-- A constructor for an array of type tokens. -/
def typesConstructor : ConstructorDecl :=
  publicConstructor [{ name := "types", type := .array (.ofLibrary .reflectType []) }]

/-- The accessor for an array of type tokens takes nothing and passes an empty array. -/
theorem not_passesOn_typesConstructor :
    let parser := textParser [typesConstructor]
    Contract.checkType {} { types := [parser] } .parser parser = .ok () ∧
      parser.product? = some (.ofLibrary .string []) ∧ parser.typeParams = [] ∧
      parser.publicConstructors = [typesConstructor] ∧
      ∃ accessor extension : Java.Member,
        accessors {} "Text" parser [] = .ok (some [accessor]) ∧
          extensions "Text" parser = some [extension] ∧
          accessor.params = [] ∧
          accessor.body =
            [.result (.localCall "asParser"
              [.newObject parser.classRef false [.newArray (.ofLibrary .reflectType []) []]])] ∧
          ¬PassesOn parser typesConstructor accessor ∧ ¬Agree accessor extension := by
  intro parser
  have hcontract : Contract.checkType {} { types := [parser] } .parser parser = .ok () :=
    (Contract.checkType_parser_eq_ok_iff_of_not_generic rfl).2
      ⟨rfl, rfl, Round.declReaches_of_superclass _ rfl rfl⟩
  have hproduct : parser.product? = some (.ofLibrary .string []) := by decide
  have hparams (accessor : Java.Member) (hnone : accessor.params = []) :
      ¬PassesOn parser typesConstructor accessor := by
    intro hpasses
    rw [hpasses.params] at hnone
    cases hnone
  refine ⟨hcontract, hproduct, rfl, rfl, _, _, accessors_eq_map_of_not_generic [] rfl hproduct rfl,
    extensions_of_not_generic hproduct rfl, rfl, rfl, hparams _ rfl, ?_⟩
  rintro ⟨⟨request, heq⟩, -⟩
  cases heq

end FluentHttp.Api
