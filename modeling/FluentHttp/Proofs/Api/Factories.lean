import FluentHttp.Java.Printer
import FluentHttp.Proofs.Api.Signatures

/-!
# FluentHttp.Proofs.Api.Factories

The factories of a builder, one for each public constructor (`factories_of_constructors`).

A factory takes what its constructor takes and passes it on. Where a string comes first it takes
arguments for formatting as well, which come last, are written as a variable number of arguments and
go nowhere but into the first argument (`Takes`). Whether a string comes first is told by the types
of the constructor, so factories are told apart by their types exactly if the constructors are.
-/

namespace FluentHttp

/-! ### Parameters as text -/

/-- A parameter as text, if it does not take a variable number of arguments. -/
def Java.paramText (naming : String → String) (param : Parameter) : String :=
  param.type.textWith naming ++ " " ++ param.name

/-- Where the last parameter is an array that takes a variable number of arguments, only its text
shows this. -/
theorem Java.paramTexts_concat_array (naming : String → String) (params : List Parameter)
    (name : String) (component : TypeExpr) :
    paramTexts naming true (params ++ [{ name, type := .array component }]) =
      params.map (paramText naming) ++ [component.textWith naming ++ "... " ++ name] := by
  induction params with
  | nil => rfl
  | cons param rest ih =>
      have hcons : paramTexts naming true (param :: (rest ++ [{ name, type := .array component }])) =
          paramText naming param ::
            paramTexts naming true (rest ++ [{ name, type := .array component }]) := by
        rw [paramTexts]
        · rfl
        · simp
      rw [List.cons_append, hcons, ih]
      rfl

namespace Api

open Java

/-! ### Constructors -/

/-- The constructor in a member of a builder that factories can call, if any. -/
def publicConstructor? : FluentHttp.Member → Option ConstructorDecl
  | .method _ => none
  | .constructor ctor => if ctor.modifiers.isPublic = true then some ctor else none

theorem publicConstructors_eq_filterMap (decl : TypeDecl) :
    decl.publicConstructors = decl.members.filterMap publicConstructor? := by
  unfold TypeDecl.publicConstructors TypeDecl.constructors
  rw [List.filter_filterMap]
  refine List.filterMap_congr fun member _ => ?_
  cases member <;> rfl

/-- A string comes first among the parameters of a constructor. -/
def StartsWithString (ctor : ConstructorDecl) : Prop :=
  ∃ first rest args, ctor.params = first :: rest ∧ first.type = .ofLibrary .string args

theorem takesUrl_iff {ctor : ConstructorDecl} : takesUrl ctor = true ↔ StartsWithString ctor := by
  rw [takesUrl, StartsWithString]
  cases ctor.params with
  | nil => simp
  | cons first rest => simp [TypeExpr.isLibrary_iff]

/-! ### Factories -/

/-- What a factory takes for a constructor, and what it passes to it. -/
inductive Takes (ctor : ConstructorDecl) : List Parameter → List Expr → Prop
  /-- Arguments for formatting come last. They go into the first argument, and into no other. -/
  | formatted {first : Parameter} {rest : List Parameter} {args : List TypeExpr}
      (hparams : ctor.params = first :: rest) (hstring : first.type = .ofLibrary .string args) :
      Takes ctor (ctor.params ++ [{ name := "formatArgs", type := .array (.ofLibrary .object []) }])
        (.localCall "format" [.variable first.name, .variable "formatArgs"]
          :: rest.map (.variable ·.name))
  | plain (h : ¬StartsWithString ctor) :
      Takes ctor ctor.params (ctor.params.map (.variable ·.name))

/-- A public static method makes the wrapper of a builder that it makes with a constructor. -/
structure MakesWrapper (aliasName : String) (decl : TypeDecl) (wrapper : ClassDecl)
    (ctor : ConstructorDecl) (member : Java.Member) : Prop where
  name : member.name = aliasName
  modifiers : member.modifiers = { isPublic := true, isStatic := true }
  typeParams : member.typeParams = decl.typeParams
  returns : member.returnType = some wrapper.selfType
  throws : member.throws = ctor.throws
  makes : ∃ args, Takes ctor member.params args ∧
    member.body =
      [.result (.newObject wrapper.classRef decl.isGeneric
        [.newObject decl.classRef decl.isGeneric args])]
  varargs : member.varargs = true ↔
    StartsWithString ctor ∨
      ctor.varargs = true ∧ ∃ last, ctor.params.getLast? = some last ∧ last.type.isArray = true
  /-- The text of the arguments for formatting. -/
  formatText : StartsWithString ctor → ∀ naming, paramTexts naming member.varargs member.params =
    ctor.params.map (paramText naming) ++ [naming "java.lang.Object" ++ "... formatArgs"]

theorem factoryParams_of_startsWithString {ctor : ConstructorDecl} (h : StartsWithString ctor) :
    factoryParams ctor =
      ctor.params ++ [{ name := "formatArgs", type := .array (.ofLibrary .object []) }] :=
  if_pos (takesUrl_iff.2 h)

theorem factoryParams_of_not_startsWithString {ctor : ConstructorDecl}
    (h : ¬StartsWithString ctor) : factoryParams ctor = ctor.params :=
  if_neg (takesUrl_iff.not.2 h)

theorem takes_factory (ctor : ConstructorDecl) :
    Takes ctor (factoryParams ctor) (factoryArgs ctor) := by
  by_cases h : StartsWithString ctor
  · have hurl : takesUrl ctor = true := takesUrl_iff.2 h
    rw [factoryParams_of_startsWithString h]
    obtain ⟨first, rest, args, hparams, hstring⟩ := h
    have hargs : factoryArgs ctor =
        .localCall "format" [.variable first.name, .variable "formatArgs"]
          :: rest.map (.variable ·.name) := by
      rw [factoryArgs, hparams, hurl]
      rfl
    rw [hargs]
    exact .formatted hparams hstring
  · have hurl : takesUrl ctor = false := Bool.eq_false_iff.2 (takesUrl_iff.not.2 h)
    have hargs : factoryArgs ctor = ctor.params.map (.variable ·.name) := by
      rw [factoryArgs, hurl]
      cases ctor.params <;> rfl
    rw [factoryParams_of_not_startsWithString h, hargs]
    exact .plain h

/-- A factory that formats takes a variable number of arguments, any other one if its constructor
can. -/
theorem varargs_factory_iff {aliasName : String} {decl : TypeDecl} {wrapper : ClassDecl}
    {ctor : ConstructorDecl} :
    (factory aliasName decl wrapper ctor).varargs = true ↔
      StartsWithString ctor ∨
        ctor.varargs = true ∧ ∃ last, ctor.params.getLast? = some last ∧ last.type.isArray = true := by
  change takesVarargs (takesUrl ctor || ctor.varargs) (factoryParams ctor) = true ↔ _
  rw [takesVarargs_iff, Bool.or_eq_true, takesUrl_iff]
  by_cases h : StartsWithString ctor
  · rw [factoryParams_of_startsWithString h]
    exact iff_of_true ⟨.inl h, _, List.getLast?_concat, rfl⟩ (.inl h)
  · rw [factoryParams_of_not_startsWithString h, or_iff_right h, or_iff_right h]

theorem makesWrapper_factory (aliasName : String) (decl : TypeDecl) (wrapper : ClassDecl)
    (ctor : ConstructorDecl) :
    MakesWrapper aliasName decl wrapper ctor (factory aliasName decl wrapper ctor) where
  name := rfl
  modifiers := rfl
  typeParams := rfl
  returns := rfl
  throws := rfl
  makes := ⟨factoryArgs ctor, takes_factory ctor, rfl⟩
  varargs := varargs_factory_iff
  formatText := by
    intro h naming
    have hvarargs : (factory aliasName decl wrapper ctor).varargs = true :=
      varargs_factory_iff.2 (.inl h)
    have hparams : (factory aliasName decl wrapper ctor).params =
        ctor.params ++ [{ name := "formatArgs", type := .array (.ofLibrary .object []) }] :=
      factoryParams_of_startsWithString h
    have hobject : (TypeExpr.ofLibrary .object []).textWith naming = naming "java.lang.Object" := by
      rw [TypeExpr.ofLibrary, ClassRef.ofLibrary, ClassRef.toType, TypeExpr.textWith]
      rfl
    rw [hvarargs, hparams, paramTexts_concat_array, hobject, String.append_assoc]
    rfl

/-- **The factories of a builder.** There is one for each public constructor, in the order of the
builder's members: a public static method, named by the alias, that makes the builder and its
wrapper. It takes what the constructor takes, and arguments for formatting behind it exactly if a
string comes first; then the first argument is formatted. No two factories have the same types of
parameters exactly if no two of the constructors have. -/
theorem factories_of_constructors (config : Config) (aliasName : String) (decl : TypeDecl) :
    List.Forall₂ (MakesWrapper aliasName decl (wrapper config decl))
      (decl.members.filterMap publicConstructor?) (factories config aliasName decl) ∧
    (((factories config aliasName decl).map fun member => member.params.map (·.type)).Nodup ↔
      ((decl.members.filterMap publicConstructor?).map fun ctor =>
        ctor.params.map (·.type)).Nodup) := by
  rw [← publicConstructors_eq_filterMap]
  constructor
  · rw [factories, List.forall₂_map_right_iff, List.forall₂_same]
    exact fun ctor _ => makesWrapper_factory aliasName decl (wrapper config decl) ctor
  · have htypes : (factories config aliasName decl).map (fun member => member.params.map (·.type)) =
        (constructorTypes decl).map formattedTypes := by
      rw [factories, constructorTypes, List.map_map, List.map_map]
      exact List.map_congr_left fun ctor _ => map_type_factoryParams ctor
    rw [htypes, List.nodup_map_iff formattedTypes_injective]
    rfl

end Api

end FluentHttp
