import FluentHttp.Declaration.Basic
import FluentHttp.Json.Basic
import FluentHttp.TypeExpr.Printer

/-!
# FluentHttp.Declaration.Writer

Rounds as JSON. Types are written as type expressions, and what is empty or absent is left out where
the reader supplies it.
-/

namespace FluentHttp

namespace Json

/-- A list as an array. -/
def ofList (write : α → Json) (xs : List α) : Json :=
  .array (xs.map write)

/-- A field of an object whose value is a list, left out if that is empty. -/
def listField (key : String) (write : α → Json) (xs : List α) : List (String × Json) :=
  if xs.isEmpty then [] else [(key, ofList write xs)]

/-- A field of an object, left out if its value is absent. -/
def optionField (key : String) (write : α → Json) (x : Option α) : List (String × Json) :=
  x.toList.map fun value => (key, write value)

end Json

/-- A type as JSON. -/
def TypeExpr.toJson (type : TypeExpr) : Json :=
  .string type.text

/-- A set of modifiers as JSON. -/
def Modifiers.toJson (modifiers : Modifiers) : Json :=
  Json.ofList (.string ·.keyword) modifiers.toList

/-- A type parameter as JSON. -/
def TypeParam.toJson (param : TypeParam) : Json :=
  .object <| [("name", .string param.name)]
    ++ Json.listField "bounds" TypeExpr.toJson param.bounds

/-- A parameter as JSON. -/
def Parameter.toJson (param : Parameter) : Json :=
  .object [("name", .string param.name), ("type", param.type.toJson)]

/-- A member as JSON, with its kind in front. -/
def Member.toJson : Member → Json
  | method decl =>
    .object <| [("kind", .string "method"), ("name", .string decl.name),
        ("modifiers", decl.modifiers.toJson)]
      ++ Json.listField "type_params" TypeParam.toJson decl.typeParams
      ++ [("params", Json.ofList Parameter.toJson decl.params),
        ("return_type", decl.returnType.toJson)]
      ++ Json.listField "throws" TypeExpr.toJson decl.throws
      ++ [("varargs", .bool decl.varargs), ("overrides", .bool decl.overrides)]
  | constructor decl =>
    .object <| [("kind", .string "constructor"), ("modifiers", decl.modifiers.toJson),
        ("params", Json.ofList Parameter.toJson decl.params)]
      ++ Json.listField "throws" TypeExpr.toJson decl.throws
      ++ [("varargs", .bool decl.varargs)]

/-- An annotation as JSON, with its kind in front. -/
def Annotation.toJson : Annotation → Json
  | param methodName =>
    .object [("kind", .string "param"), ("method_name", .string methodName)]
  | parser name wrappers =>
    .object <| [("kind", .string "parser"), ("name", .string name)]
      ++ Json.listField "wrappers" TypeExpr.toJson wrappers
  | converter name => .object [("kind", .string "converter"), ("name", .string name)]
  | okClient name => .object [("kind", .string "ok_client"), ("name", .string name)]
  | domain name => .object [("kind", .string "domain"), ("name", .string name)]
  | defaultDomain => .object [("kind", .string "default_domain")]

/-- A class as JSON. -/
def TypeDecl.toJson (decl : TypeDecl) : Json :=
  .object <| [("name", .string decl.name), ("modifiers", decl.modifiers.toJson)]
    ++ Json.listField "type_params" TypeParam.toJson decl.typeParams
    ++ Json.optionField "superclass" TypeExpr.toJson decl.superclass
    ++ Json.listField "interfaces" TypeExpr.toJson decl.interfaces
    ++ Json.listField "members" Member.toJson decl.members
    ++ Json.optionField "annotation" Annotation.toJson decl.annotation

/-- A field as JSON. -/
def FieldDecl.toJson (field : FieldDecl) : Json :=
  .object <| [("owner", .string field.owner), ("name", .string field.name),
      ("modifiers", field.modifiers.toJson), ("type", field.type.toJson)]
    ++ Json.optionField "annotation" Annotation.toJson field.annotation

/-- A round as JSON. -/
def Round.toJson (round : Round) : Json :=
  .object [("types", Json.ofList TypeDecl.toJson round.types),
    ("fields", Json.ofList FieldDecl.toJson round.fields)]

end FluentHttp
