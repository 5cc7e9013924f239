/-!
# FluentHttp.LibraryType

The library types whose names the generator knows. Everything it decides about a class by name is
decided through this list: the marker interfaces that annotated classes must inherit, the bases a
builder may extend, and the types that get special treatment in signatures.
-/

namespace FluentHttp

/-- A library type that the generator knows by name. -/
inductive LibraryType where
  /-- The interface of request parameter builders. -/
  | param
  /-- The interface of response parsers. -/
  | parser
  /-- The interface of body converters. -/
  | converter
  | okHttpClient
  | response
  | string
  | object
  /-- The reflective type token. -/
  | reflectType
  /-- The class token. -/
  | classToken
  | list
  | abstractParam
  | abstractBodyParam
  | bodyParam
  | formParam
  | jsonParam
  | jsonArrayParam
  | noBodyParam
  | abstractParser
  | simpleParser
  | typeParser
  | jsonConverter
  deriving DecidableEq, Repr

namespace LibraryType

/-- All library types. -/
def all : List LibraryType :=
  [.param, .parser, .converter, .okHttpClient, .response, .string, .object, .reflectType,
   .classToken, .list, .abstractParam, .abstractBodyParam, .bodyParam, .formParam, .jsonParam,
   .jsonArrayParam, .noBodyParam, .abstractParser, .simpleParser, .typeParser, .jsonConverter]

/-- The qualified name of a library type. -/
def qualifiedName : LibraryType → String
  | param => "rxhttp.wrapper.param.Param"
  | parser => "rxhttp.wrapper.parse.Parser"
  | converter => "rxhttp.wrapper.callback.IConverter"
  | okHttpClient => "okhttp3.OkHttpClient"
  | response => "okhttp3.Response"
  | string => "java.lang.String"
  | object => "java.lang.Object"
  | reflectType => "java.lang.reflect.Type"
  | classToken => "java.lang.Class"
  | list => "java.util.List"
  | abstractParam => "rxhttp.wrapper.param.AbstractParam"
  | abstractBodyParam => "rxhttp.wrapper.param.AbstractBodyParam"
  | bodyParam => "rxhttp.wrapper.param.BodyParam"
  | formParam => "rxhttp.wrapper.param.FormParam"
  | jsonParam => "rxhttp.wrapper.param.JsonParam"
  | jsonArrayParam => "rxhttp.wrapper.param.JsonArrayParam"
  | noBodyParam => "rxhttp.wrapper.param.NoBodyParam"
  | abstractParser => "rxhttp.wrapper.parse.AbstractParser"
  | simpleParser => "rxhttp.wrapper.parse.SimpleParser"
  | typeParser => "rxhttp.wrapper.parse.TypeParser"
  | jsonConverter => "rxhttp.wrapper.callback.JsonConverter"

/-- The library type of a qualified name. -/
def ofName? (name : String) : Option LibraryType :=
  all.find? (·.qualifiedName == name)

/-- The marker interface that a library type inherits from or is. -/
def marker : LibraryType → Option LibraryType
  | param | abstractParam | abstractBodyParam | bodyParam | formParam | jsonParam | jsonArrayParam
  | noBodyParam => some .param
  | parser | abstractParser | simpleParser | typeParser => some .parser
  | converter | jsonConverter => some .converter
  | okHttpClient | response | string | object | reflectType | classToken | list => none

/-- Whether a library type is itself a marker interface. -/
def isMarker (type : LibraryType) : Bool :=
  type.marker == some type

/-- Whether a library type inherits from a marker, or is it. -/
def reaches (type marker : LibraryType) : Bool :=
  type.marker == some marker

end LibraryType

end FluentHttp
