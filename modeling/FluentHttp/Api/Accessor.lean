import FluentHttp.Config
import FluentHttp.Java.Syntax

/-!
# FluentHttp.Api.Accessor

Reactive accessors of a parser: for each public constructor a method that makes the parser and
returns what it will parse as an observable.

Where a constructor takes reflective type tokens, the accessor takes class tokens: an array of type
tokens becomes one class token for each type parameter, and a single type token one for the next
type parameter that has none yet. All other parameters are passed on.

A parser with one type parameter has further accessors, one for each container: these parse into
the container. They are named by the simple name of the container, so two containers must not share
one.
-/

namespace FluentHttp.Api

open Java

/-! ### Errors -/

/-- Why no API can be generated from declarations that have met their contracts. -/
inductive ApiError where
  /-- Two containers of a parser have one simple name. -/
  | containerClash (parser first second simple : String)
  /-- Two builders have one wrapper. -/
  | wrapperClash (builder wrapper : String)
  deriving DecidableEq, Repr

/-- The wording of an API error. -/
def ApiError.message : ApiError → String
  | containerClash parser first second simple =>
    s!"{parser} declares wrappers {first} and {second} sharing the simple name {simple};"
      ++ " their accessors would collide"
  | wrapperClash builder wrapper =>
    s!"{builder} would generate {wrapper}, which another @Param class already generates"

/-! ### Containers -/

/-- Adds the class of a wrapper type to containers, unless it is there. Types that are no classes
are passed over. -/
def addContainer (parser : String) (containers : List ClassRef) (wrapper : TypeExpr) :
    Except ApiError (List ClassRef) :=
  match wrapper.class? with
  | none => .ok containers
  | some ref =>
    match containers.find? (·.simpleName == ref.simpleName) with
    | none => .ok (containers ++ [ref.raw])
    | some existing =>
      if existing.name = ref.name then .ok containers
      else .error (.containerClash parser existing.name ref.name ref.simpleName)

/-- The containers that results are also offered in: lists, and what the wrappers name. -/
def containers (decl : TypeDecl) (wrappers : List TypeExpr) : Except ApiError (List ClassRef) :=
  wrappers.foldlM (addContainer decl.name) [.ofLibrary .list []]

/-! ### Tokens -/

/-- How an argument of the constructor comes from parameters of the accessor. -/
inductive ArgSource where
  /-- A parameter, passed on. -/
  | plain (name : String)
  /-- A class token for one type token. -/
  | token (name : String)
  /-- Class tokens for an array of type tokens. -/
  | tokenArray (names : List String)
  deriving DecidableEq, Repr

namespace ArgSource

/-- The class tokens that go into an argument. -/
def tokens : ArgSource → List String
  | plain _ => []
  | token name => [name]
  | tokenArray names => names

/-- Whether an argument is made of class tokens. -/
def isToken : ArgSource → Bool
  | plain _ => false
  | token _ | tokenArray _ => true

/-- The argument, with `mark` behind the name of each token. -/
def toExpr (mark : String) : ArgSource → Expr
  | plain name => .variable name
  | token name => .variable (name ++ mark)
  | tokenArray names =>
    .newArray (.ofLibrary .reflectType []) (names.map fun name => .variable (name ++ mark))

end ArgSource

/-- A parameter of the constructor, as the accessor takes it. -/
structure Slot where
  /-- The parameters of the accessor in its place. -/
  params : List Parameter
  /-- The argument of the constructor. -/
  source : ArgSource
  deriving DecidableEq, Repr

/-- The type of the class token of a type parameter. -/
def classToken (param : TypeParam) : TypeExpr :=
  .ofLibrary .classToken [param.toVariable]

/-- The class token of a type parameter as a parameter named after it. -/
def tokenParam (param : TypeParam) : Parameter :=
  { name := Text.lowercase param.name ++ "Type", type := classToken param }

/-- The parameters of a constructor as the accessor takes them, where `unused` are the type
parameters that no single token stands for yet. -/
def slots (typeParams : List TypeParam) : (unused : List TypeParam) → List Parameter → List Slot
  | _, [] => []
  | unused, param :: rest =>
    if param.type.isArrayOf .reflectType then
      let params := typeParams.map tokenParam
      { params, source := .tokenArray (params.map (·.name)) } :: slots typeParams unused rest
    else
      let plain : Slot := { params := [param], source := .plain param.name }
      match unused with
      | [] => plain :: slots typeParams [] rest
      | next :: later =>
        if param.type.isLibrary .reflectType then
          { params := [{ name := param.name, type := classToken next }]
            source := .token param.name } :: slots typeParams later rest
        else
          plain :: slots typeParams unused rest

/-- The parameters of a constructor of a parser as its accessors take them. -/
def slotsOf (decl : TypeDecl) (ctor : ConstructorDecl) : List Slot :=
  slots decl.typeParams decl.typeParams ctor.params

/-! ### Accessors -/

/-- The class that makes the type of a container at run time. -/
def parameterizedType : ClassRef :=
  { name := "rxhttp.wrapper.entity.ParameterizedTypeImpl" }

/-- The call that parses with a new parser. -/
def parseCall (decl : TypeDecl) (args : List Expr) : Expr :=
  .localCall "asParser" [.newObject decl.classRef decl.isGeneric args]

/-- An accessor with a given name, element type and body. -/
def accessorMember (observable name : String) (decl : TypeDecl) (ctor : ConstructorDecl)
    (element : TypeExpr) (body : List Stmt) : Java.Member :=
  let params := (slotsOf decl ctor).flatMap (·.params)
  { name
    modifiers := { isPublic := true }
    typeParams := decl.typeParams
    params
    varargs := takesVarargs ctor.varargs params
    returnType := some (.named observable [element])
    throws := ctor.throws
    body }

/-- The accessor of a constructor. -/
def accessor (observable name : String) (decl : TypeDecl) (product : TypeExpr)
    (ctor : ConstructorDecl) : Java.Member :=
  let args := (slotsOf decl ctor).map (·.source.toExpr "")
  accessorMember observable name decl ctor product [.result (parseCall decl args)]

/-- A product in a container: each argument of a product that has arguments, else the product. -/
def inContainer (container : ClassRef) (product : TypeExpr) : TypeExpr :=
  match product with
  | .named name (first :: rest) =>
    .named name ((first :: rest).map fun arg => .named container.name [arg])
  | product => .named container.name [product]

/-- The local that holds the type of a container of a token. -/
def containerToken (container : ClassRef) (token : String) : Stmt :=
  .declare (.ofLibrary .reflectType []) (token ++ container.simpleName)
    (.staticCall parameterizedType "get" [.classLiteral container.toType, .variable token])

/-- The accessor of a constructor that parses into a container. -/
def containerAccessor (observable name : String) (decl : TypeDecl) (product : TypeExpr)
    (ctor : ConstructorDecl) (container : ClassRef) : Java.Member :=
  let sources := (slotsOf decl ctor).map (·.source)
  let locals := (sources.flatMap (·.tokens)).map (containerToken container)
  let args := sources.map (·.toExpr container.simpleName)
  accessorMember observable (name ++ container.simpleName) decl ctor
    (inContainer container product) (locals ++ [.result (parseCall decl args)])

/-- All accessors of a constructor. Only a constructor that takes tokens can parse into containers.
-/
def accessorsOf (observable name : String) (decl : TypeDecl) (product : TypeExpr)
    (containers : List ClassRef) (ctor : ConstructorDecl) : List Java.Member :=
  accessor observable name decl product ctor
    :: if (slotsOf decl ctor).any (·.source.isToken) then
        containers.map (containerAccessor observable name decl product ctor)
      else []

/-- The reactive accessors of a parser under its alias. There are none without a reactive library,
or if the class parses nothing. -/
def accessors (config : Config) (aliasName : String) (decl : TypeDecl) (wrappers : List TypeExpr) :
    Except ApiError (Option (List Java.Member)) :=
  match config.reactive.observable?, decl.product? with
  | some observable, some product => do
    let containers ← if decl.typeParams.length = 1 then containers decl wrappers else .ok []
    let name := "as" ++ aliasName
    return some (decl.publicConstructors.flatMap
      (accessorsOf observable name decl product containers))
  | _, _ => .ok none

end FluentHttp.Api
