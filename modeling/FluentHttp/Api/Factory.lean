import FluentHttp.Api.Wrapper

/-!
# FluentHttp.Api.Factory

Static factories: each public constructor of a builder as a method that makes the builder and its
wrapper. A constructor whose first parameter is a string takes a URL there, so its factory formats
that argument with arguments of its own.
-/

namespace FluentHttp.Api

open Java

/-- The parameter that takes the arguments of a formatted URL. -/
def formatArgs : Parameter :=
  { name := "formatArgs", type := .array (.ofLibrary .object []) }

/-- Whether a constructor's first parameter is a string. -/
def takesUrl (ctor : ConstructorDecl) : Bool :=
  ctor.params.head?.any (·.type.isLibrary .string)

/-- The parameters of the factory of a constructor. -/
def factoryParams (ctor : ConstructorDecl) : List Parameter :=
  if takesUrl ctor then ctor.params ++ [formatArgs] else ctor.params

/-- The arguments that a factory passes to the constructor. -/
def factoryArgs (ctor : ConstructorDecl) : List Expr :=
  match ctor.params with
  | [] => []
  | first :: rest =>
    let url := Expr.variable first.name
    let first :=
      if takesUrl ctor then .localCall "format" [url, .variable formatArgs.name] else url
    first :: rest.map (.variable ·.name)

/-- The factory of a constructor. -/
def factory (aliasName : String) (decl : TypeDecl) (wrapper : ClassDecl) (ctor : ConstructorDecl) :
    Java.Member :=
  let builder := Expr.newObject decl.classRef decl.isGeneric (factoryArgs ctor)
  { name := aliasName
    modifiers := { isPublic := true, isStatic := true }
    typeParams := decl.typeParams
    params := factoryParams ctor
    varargs := takesVarargs (takesUrl ctor || ctor.varargs) (factoryParams ctor)
    returnType := some wrapper.selfType
    throws := ctor.throws
    body := [.result (.newObject wrapper.classRef decl.isGeneric [builder])] }

/-- The factories of a builder, under its alias. -/
def factories (config : Config) (aliasName : String) (decl : TypeDecl) : List Java.Member :=
  decl.publicConstructors.map (factory aliasName decl (wrapperHead config decl))

end FluentHttp.Api
