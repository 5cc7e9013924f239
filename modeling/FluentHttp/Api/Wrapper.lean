import FluentHttp.Config
import FluentHttp.Java.Syntax

/-!
# FluentHttp.Api.Wrapper

The wrapper of a request builder: a class that offers the builder's own methods and keeps calls
chaining on itself.

A wrapper extends a base that fits the builder's superclass and holds the builder in the field
`param`. The bases of concrete library builders know it by a type of their own, so there the
delegate has to be cast.
-/

namespace FluentHttp.Api

open Java

/-- The name of the entry class, with which all generated names of classes start. -/
def entryName : String := "RxHttp"

/-- The field that holds the wrapped builder. -/
def paramField : String := "param"

/-! ### The base -/

/-- The library builders whose wrappers are fixed classes. -/
def concreteBuilders : List LibraryType :=
  [.bodyParam, .formParam, .jsonParam, .jsonArrayParam, .noBodyParam]

/-- The superclass of a wrapper, and the expression by which it reaches the wrapped builder. -/
structure Base where
  superclass : TypeExpr
  delegate : Expr

/-- The base of the wrapper of a builder, chosen by the builder's immediate superclass. -/
def baseOf (config : Config) (decl : TypeDecl) (wrapper : TypeExpr) : Base :=
  let generic (name : String) : Base :=
    { superclass := .named (config.qualified name) [decl.selfType, wrapper]
      delegate := .variable paramField }
  match decl.superclass.bind TypeExpr.library? with
  | some library =>
    if library ∈ concreteBuilders then
      let name := entryName ++ simpleName library.qualifiedName
      { superclass := .named (config.qualified name) []
        delegate := .cast decl.selfType (.variable paramField) }
    else if library = .abstractBodyParam then
      generic (entryName ++ "AbstractBodyParam")
    else
      generic entryName
  | none => generic entryName

/-! ### Members -/

/-- The constructor of a wrapper, which takes the builder to wrap. -/
def wrapperConstructor (decl : TypeDecl) (name : String) : Java.Member :=
  { name
    modifiers := { isPublic := true }
    params := [{ name := paramField, type := decl.selfType }]
    returnType := none
    body := [.evaluate (.superCall [.variable paramField])] }

/-- A builder's method on its wrapper. It calls the method of the wrapped builder; where that
returns the builder, it returns the wrapper. -/
def delegatingMethod (decl : TypeDecl) (wrapper : TypeExpr) (delegate : Expr)
    (method : MethodDecl) : Java.Member :=
  let call := Expr.call delegate method.name (method.params.map (.variable ·.name))
  let (returnType, body) :=
    if method.returnType.hasRawName decl.name then
      (wrapper, [Stmt.evaluate call, Stmt.result .this])
    else if method.returnType.isVoid then
      (TypeExpr.void, [Stmt.evaluate call])
    else
      (method.returnType, [Stmt.result call])
  { name := method.name
    modifiers := method.modifiers
    typeParams := method.typeParams
    params := method.params
    varargs := takesVarargs method.varargs method.params
    returnType := some returnType
    throws := method.throws
    body }

/-! ### The class -/

/-- The name of the wrapper of a builder. -/
def wrapperName (decl : TypeDecl) : String :=
  entryName ++ decl.simpleName

/-- The wrapper of a builder, before it has a base and members. -/
def wrapperHead (config : Config) (decl : TypeDecl) : ClassDecl :=
  { package := config.package
    name := wrapperName decl
    doc := ["Fluent wrapper around \x7b@link " ++ decl.name ++ "\x7d."]
    typeParams := decl.typeParams }

/-- The wrapper of a builder. -/
def wrapper (config : Config) (decl : TypeDecl) : ClassDecl :=
  let head := wrapperHead config decl
  let base := baseOf config decl head.selfType
  { head with
    superclass := some base.superclass
    members := wrapperConstructor decl head.name
      :: decl.ownMethods.map (delegatingMethod decl head.selfType base.delegate) }

end FluentHttp.Api
