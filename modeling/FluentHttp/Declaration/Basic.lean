import FluentHttp.Declaration.Annotation
import FluentHttp.Declaration.Modifier
import FluentHttp.Text.LetterCase
import FluentHttp.TypeExpr.Basic

/-!
# FluentHttp.Declaration.Basic

Declarations: the classes and fields that one round of generation is told about, annotated or not.
A declaration is identified by its qualified name.
-/

namespace FluentHttp

/-! ### Members -/

/-- A parameter of a method or constructor. -/
structure Parameter where
  name : String
  type : TypeExpr
  deriving DecidableEq, Repr

/-- A method of a class. -/
structure MethodDecl where
  name : String
  modifiers : Modifiers := .empty
  typeParams : List TypeParam := []
  params : List Parameter := []
  returnType : TypeExpr := .void
  throws : List TypeExpr := []
  /-- The last parameter takes any number of arguments. -/
  varargs : Bool := false
  /-- The method overrides one of a supertype. -/
  overrides : Bool := false
  deriving DecidableEq, Repr

/-- A constructor of a class. -/
structure ConstructorDecl where
  modifiers : Modifiers := .empty
  params : List Parameter := []
  throws : List TypeExpr := []
  /-- The last parameter takes any number of arguments. -/
  varargs : Bool := false
  deriving DecidableEq, Repr

/-- A member of a class. -/
inductive Member where
  | method (decl : MethodDecl)
  | constructor (decl : ConstructorDecl)
  deriving DecidableEq, Repr

/-- Whether a constructor takes the type tokens of `count` type parameters: one each, or all in one
array. -/
def ConstructorDecl.takesTypeTokens (ctor : ConstructorDecl) (count : Nat) : Bool :=
  match ctor.params with
  | [param] => param.type.isArrayOf .reflectType || count == 1 && param.type.isLibrary .reflectType
  | params => params.length == count && params.all (·.type.isLibrary .reflectType)

/-! ### Classes -/

/-- A class. -/
structure TypeDecl where
  /-- The qualified name. -/
  name : String
  modifiers : Modifiers := .empty
  typeParams : List TypeParam := []
  superclass : Option TypeExpr := none
  interfaces : List TypeExpr := []
  members : List Member := []
  annotation : Option Annotation := none
  deriving DecidableEq, Repr

namespace TypeDecl

/-- The raw reference to the class. -/
def classRef (decl : TypeDecl) : ClassRef :=
  { name := decl.name }

/-- The class applied to its own type variables. -/
def selfType (decl : TypeDecl) : TypeExpr :=
  .named decl.name (decl.typeParams.map TypeParam.toVariable)

/-- The simple name of the class. -/
def simpleName (decl : TypeDecl) : String :=
  FluentHttp.simpleName decl.name

/-- Whether the class has type parameters. -/
def isGeneric (decl : TypeDecl) : Bool :=
  !decl.typeParams.isEmpty

/-- The category that the class is annotated with. -/
def category? (decl : TypeDecl) : Option Category :=
  decl.annotation.map Annotation.category

/-- The name in the annotation, which may be empty. -/
def aliasName? (decl : TypeDecl) : Option String :=
  decl.annotation.bind Annotation.aliasName?

/-- The containers in the annotation. -/
def wrappers (decl : TypeDecl) : List TypeExpr :=
  (decl.annotation.map Annotation.wrappers).getD []

/-- The superclass and the interfaces. -/
def supertypes (decl : TypeDecl) : List TypeExpr :=
  decl.superclass.toList ++ decl.interfaces

/-- The constructors, in order. -/
def constructors (decl : TypeDecl) : List ConstructorDecl :=
  decl.members.filterMap fun
    | .constructor ctor => some ctor
    | .method _ => none

/-- The methods, in order. -/
def methods (decl : TypeDecl) : List MethodDecl :=
  decl.members.filterMap fun
    | .method method => some method
    | .constructor _ => none

/-- The public constructors, in order. -/
def publicConstructors (decl : TypeDecl) : List ConstructorDecl :=
  decl.constructors.filter (·.modifiers.isPublic)

/-- The methods that a class adds to its supertypes for all to call on an instance. -/
def ownMethods (decl : TypeDecl) : List MethodDecl :=
  decl.methods.filter fun method =>
    method.modifiers.isPublic && !method.modifiers.isStatic && !method.overrides

/-- The first constructor without parameters. -/
def noArgConstructor? (decl : TypeDecl) : Option ConstructorDecl :=
  decl.constructors.find? (·.params.isEmpty)

/-- Whether a method parses a response: a public instance method `onParse` of one response. -/
def isParseMethod (method : MethodDecl) : Bool :=
  method.name == "onParse" && method.modifiers.isPublic && !method.modifiers.isStatic &&
    match method.params with
    | [param] => param.type.isLibrary .response
    | _ => false

/-- What the class makes of a response: the result of its first parse method. -/
def product? (decl : TypeDecl) : Option TypeExpr :=
  (decl.methods.find? isParseMethod).map (·.returnType)

end TypeDecl

/-! ### Fields -/

/-- A field of some class. -/
structure FieldDecl where
  /-- The qualified name of the class. -/
  owner : String
  name : String
  modifiers : Modifiers := .empty
  type : TypeExpr
  annotation : Option Annotation := none
  deriving DecidableEq, Repr

namespace FieldDecl

/-- The qualified name of the field. -/
def qualifiedName (field : FieldDecl) : String :=
  field.owner ++ "." ++ field.name

/-- The category that the field is annotated with. -/
def category? (field : FieldDecl) : Option Category :=
  field.annotation.map Annotation.category

/-- The name in the annotation or, if that is empty, the field's own with a capital. -/
def aliasName (field : FieldDecl) : String :=
  match field.annotation.bind Annotation.aliasName? with
  | some name => if name.isEmpty then Text.upperFirst field.name else name
  | none => Text.upperFirst field.name

end FieldDecl

/-! ### Rounds -/

/-- The declarations of one round of generation. Besides the annotated ones it holds the classes
that their supertypes lead through. -/
structure Round where
  types : List TypeDecl := []
  fields : List FieldDecl := []
  deriving DecidableEq, Repr

namespace Round

/-- The classes annotated with a category, in order. -/
def annotatedTypes (round : Round) (category : Category) : List TypeDecl :=
  round.types.filter (·.category? == some category)

/-- The fields annotated with a category, in order. -/
def annotatedFields (round : Round) (category : Category) : List FieldDecl :=
  round.fields.filter (·.category? == some category)

/-- The number of annotated declarations. -/
def annotatedCount (round : Round) : Nat :=
  round.types.countP (fun decl => decl.annotation.isSome)
    + round.fields.countP (fun field => field.annotation.isSome)

/-- Whether no declaration is annotated. -/
def isEmpty (round : Round) : Bool :=
  round.annotatedCount == 0

/-- The declaration of a class, the first one if there are several. -/
def find? (round : Round) (name : String) : Option TypeDecl :=
  round.types.find? (·.name == name)

end Round

end FluentHttp
