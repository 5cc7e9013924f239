import FluentHttp.Config
import FluentHttp.Java.Syntax

/-!
# FluentHttp.Api.Extension

Suspend-style accessors of a parser: static methods on a request that make the parser and return
what it will parse as an awaitable. A generic parser is subclassed on the spot, so that its type
arguments stay known at run time; that takes its constructor without parameters.
-/

namespace FluentHttp.Api

open Java

/-- The class that holds all extensions. -/
def extensionsName : String := "RxHttpExtensions"

/-- The parameter that takes the request. -/
def receiver : Parameter :=
  { name := "rxHttp", type := .named "rxhttp.IRxHttp" [] }

/-- An extension that parses with a parser made by a constructor. -/
def extension (name : String) (decl : TypeDecl) (product : TypeExpr) (ctor : ConstructorDecl)
    (parser : Expr) : Java.Member :=
  let params := receiver :: ctor.params
  let request := Expr.variable receiver.name
  { name
    modifiers := { isPublic := true, isStatic := true }
    typeParams := decl.typeParams
    params
    varargs := takesVarargs ctor.varargs params
    returnType := some (.named "rxhttp.IAwait" [product])
    throws := ctor.throws
    body := [.result (.staticCall { name := "rxhttp.IRxHttpKt" } "toParser"
      [request, parser, .call request "getOkHttpClient" []])] }

/-- The extensions of a parser under its alias. There are none if the class parses nothing. -/
def extensions (aliasName : String) (decl : TypeDecl) : Option (List Java.Member) :=
  decl.product?.map fun product =>
    let name := "to" ++ aliasName
    if decl.isGeneric then
      [extension name decl product {} (.newSubclass decl.selfType [])]
    else
      decl.publicConstructors.map fun ctor =>
        extension name decl product ctor
          (.newObject decl.classRef false (ctor.params.map (.variable ·.name)))

/-- The class that holds extensions. It has no instances. -/
def extensionsClass (config : Config) (members : List Java.Member) : ClassDecl :=
  { package := config.package
    name := extensionsName
    doc := ["Suspend-style parser accessors for \x7b@link rxhttp.IRxHttp\x7d."]
    modifiers := { isPublic := true, isFinal := true }
    members := { name := extensionsName, modifiers := { isPrivate := true }, returnType := none }
      :: members }

end FluentHttp.Api
