import FluentHttp.Api.Factory
import FluentHttp.Registry

/-!
# FluentHttp.Api.EntryClass

The entry class, which holds all that does not belong to one builder: the factories of all builders,
setters for converters, clients and base URLs, and the reactive accessors of all parsers.
-/

namespace FluentHttp.Api

open Java

/-- The variable that a setter's result is cast to. -/
def selfVariable : TypeExpr := .variable "R"

/-- The field that holds the client of a request. -/
def clientField : String := "okClient"

/-- The type of strings. -/
def stringType : TypeExpr := .ofLibrary .string []

/-! ### Construction and formatting -/

/-- A field of the entry class, by way of the instance. -/
def ownField (name : String) : Expr :=
  .field .this name

/-- The constructor of the entry class. -/
def entryConstructor : Java.Member :=
  { name := entryName
    modifiers := { isProtected := true }
    params := [{ name := paramField, type := .variable "P" }]
    returnType := none
    body := [.assign (ownField paramField) (.variable paramField)] }

/-- The method that factories format URLs with. Without arguments the URL stays as it is. -/
def formatMethod : Java.Member :=
  let url := Expr.variable "url"
  let args := Expr.variable formatArgs.name
  let params : List Parameter := [{ name := "url", type := stringType }, formatArgs]
  { name := "format"
    modifiers := { isPublic := true, isStatic := true }
    params
    varargs := takesVarargs true params
    returnType := some stringType
    body :=
      [.when (.compare .equal args .null) [.result url],
       .when (.compare .equal (.field args "length") (.int 0)) [.result url],
       .result (.staticCall (.ofLibrary .string []) "format" [url, args])] }

/-! ### Setters -/

/-- A declared field, by way of its class. -/
def fieldExpr (field : FieldDecl) : Expr :=
  .staticField { name := field.owner } field.name

/-- The check that a declared field holds something. -/
def nullGuard (field : FieldDecl) (what : String) : Stmt :=
  .when (.compare .equal (fieldExpr field) .null)
    [.raise (.newObject { name := "java.lang.IllegalArgumentException" } false
      [.string (what ++ " can not be null: " ++ field.qualifiedName)])]

/-- A public method that returns the request after what it does. -/
def setter (name : String) (body : List Stmt) : Java.Member :=
  { name
    modifiers := { isPublic := true }
    returnType := some selfVariable
    body := body ++ [.result (.cast selfVariable .this)] }

/-- The alias of a field with a capital, as the names of setters hold it. -/
def setterAlias (field : FieldDecl) : String :=
  Text.upperFirst field.aliasName

/-- The name of the setter of a converter, which ends in `Converter` in any case. -/
def converterSetterName (field : FieldDecl) : String :=
  let name := "set" ++ setterAlias field
  if (setterAlias field).endsWith "Converter" then name else name ++ "Converter"

/-- The setter of a converter. -/
def converterSetter (field : FieldDecl) : Java.Member :=
  setter (converterSetterName field)
    [nullGuard field "converter",
     .evaluate (.call (.variable paramField) "tag"
       [.classLiteral (.ofLibrary .converter []), fieldExpr field])]

/-- The setter of a client. -/
def clientSetter (field : FieldDecl) : Java.Member :=
  setter ("set" ++ setterAlias field)
    [nullGuard field "OkHttpClient", .assign (ownField clientField) (fieldExpr field)]

/-! ### Base URLs -/

/-- The name of the method that puts a base URL in front of a URL. -/
def addDomainName : String := "addDomainIfAbsent"

/-- Puts a declared base URL in front of the request's URL. -/
def mergeDomain (field : FieldDecl) : List Stmt :=
  let param := Expr.variable paramField
  [.declare stringType "newUrl"
     (.localCall addDomainName [.call param "getSimpleUrl" [], fieldExpr field]),
   .evaluate (.call param "setUrl" [.variable "newUrl"])]

/-- The setter of a base URL. -/
def domainSetter (field : FieldDecl) : Java.Member :=
  setter ("setDomainTo" ++ setterAlias field ++ "IfAbsent") (mergeDomain field)

/-- The method that applies the default base URL to a builder. -/
def defaultDomainMethod (field : FieldDecl) : Java.Member :=
  { name := "addDefaultDomainIfAbsent"
    modifiers := { isProtected := true }
    params := [{ name := paramField, type := .variable "P" }]
    returnType := some (.variable "P")
    body := mergeDomain field ++ [.result (.variable paramField)] }

/-- The method that puts a base URL in front of a URL that has none. -/
def addDomainMethod : Java.Member :=
  let url := Expr.variable "url"
  { name := addDomainName
    modifiers := { isPrivate := true, isStatic := true }
    params := [{ name := "url", type := stringType }, { name := "domain", type := stringType }]
    returnType := some stringType
    body :=
      [.when (.call url "startsWith" [.string "http"]) [.result url],
       .result (.staticCall { name := "rxhttp.wrapper.utils.BuildUtil" } "mergeUrl"
         [.variable "domain", url])] }

/-! ### The class -/

/-- The members that the fields of a registry contribute. -/
def fieldMembers (registry : Registry) : List Java.Member :=
  registry.converters.map converterSetter ++ registry.clients.map clientSetter
    ++ registry.domains.map domainSetter
    ++ registry.defaultDomain.toList.map defaultDomainMethod
    ++ if registry.hasDomains then [addDomainMethod] else []

/-- The entry class, before it has members. -/
def entryHead (config : Config) : ClassDecl :=
  { package := config.package
    name := entryName
    doc := ["Entry point for building and executing requests."] }

/-- The entry class with the members of a registry's fields between factories and accessors. -/
def entryClass (config : Config) (registry : Registry) (factories accessors : List Java.Member) :
    ClassDecl :=
  let head := entryHead config
  { head with
    typeParams :=
      [{ name := "P", bounds := [.ofLibrary .param [.variable "P"]] },
       { name := "R", bounds := [.named head.qualifiedName [.variable "P", selfVariable]] }]
    superclass := some (.named "rxhttp.BaseRxHttp" [])
    fields :=
      [{ name := paramField
         modifiers := { isProtected := true, isFinal := true }
         type := .variable "P" },
       { name := clientField
         modifiers := { isProtected := true }
         type := .ofLibrary .okHttpClient [] }]
    members := entryConstructor :: formatMethod :: factories ++ fieldMembers registry
      ++ accessors }

end FluentHttp.Api
