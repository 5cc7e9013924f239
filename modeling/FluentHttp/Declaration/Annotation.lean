import FluentHttp.TypeExpr.Basic

/-!
# FluentHttp.Declaration.Annotation

The annotations that put a declaration before the generator, and their six categories.
-/

namespace FluentHttp

/-! ### Categories -/

/-- The category of an annotated declaration. -/
inductive Category where
  /-- A class that builds request parameters. -/
  | param
  /-- A class that parses responses. -/
  | parser
  /-- A field that holds a body converter. -/
  | converter
  /-- A field that holds an HTTP client. -/
  | okClient
  /-- A field that holds a base URL. -/
  | domain
  /-- The field that holds the default base URL. -/
  | defaultDomain
  deriving DecidableEq, Repr

namespace Category

/-- All categories, in the order in which they are taken up. -/
def all : List Category :=
  [.param, .parser, .converter, .okClient, .domain, .defaultDomain]

/-- The name of a category, as messages give it. -/
def name : Category → String
  | param => "Param"
  | parser => "Parser"
  | converter => "Converter"
  | okClient => "OkClient"
  | domain => "Domain"
  | defaultDomain => "DefaultDomain"

/-- The category of a name. -/
def ofName? (name : String) : Option Category :=
  all.find? (·.name == name)

/-- Whether the category is for fields; the others are for classes. -/
def isField : Category → Bool
  | param | parser => false
  | converter | okClient | domain | defaultDomain => true

end Category

/-! ### Annotations -/

/-- The annotation of a declaration. -/
inductive Annotation where
  /-- A builder, with the name of its factory methods. -/
  | param (methodName : String)
  /-- A parser, with the name its accessors are built from and the containers that its results are
  also offered in. -/
  | parser (name : String) (wrappers : List TypeExpr)
  | converter (name : String)
  | okClient (name : String)
  | domain (name : String)
  | defaultDomain
  deriving DecidableEq, Repr

namespace Annotation

/-- The category that an annotation belongs to. -/
def category : Annotation → Category
  | param _ => .param
  | parser _ _ => .parser
  | converter _ => .converter
  | okClient _ => .okClient
  | domain _ => .domain
  | defaultDomain => .defaultDomain

/-- The name that an annotation gives, which may be empty. -/
def aliasName? : Annotation → Option String
  | param name | parser name _ | converter name | okClient name | domain name => some name
  | defaultDomain => none

/-- The containers that an annotation names. -/
def wrappers : Annotation → List TypeExpr
  | parser _ wrappers => wrappers
  | _ => []

end Annotation

end FluentHttp
