import FluentHttp.TypeExpr.Basic

/-!
# FluentHttp.TypeExpr.Printer

Types as text. Arguments are separated by a comma and a blank, bounds by their keyword, and nothing
else is spaced.

Source text may shorten the names of classes, so the printer takes the naming of classes as an
argument. `TypeExpr.text` prints every name in full.
-/

namespace FluentHttp

mutual

/-- A type as text, with classes named by `naming`. -/
def TypeExpr.textWith (naming : String → String) : TypeExpr → String
  | .void => "void"
  | .primitive type => type.keyword
  | .named name [] => naming name
  | .named name args => naming name ++ "<" ++ TypeExpr.listTextWith naming args ++ ">"
  | .array component => component.textWith naming ++ "[]"
  | .variable name => name
  | .wildcard upper lower =>
    "?" ++ TypeExpr.boundTextWith naming " extends " upper
      ++ TypeExpr.boundTextWith naming " super " lower

/-- Types as text, separated by commas. -/
def TypeExpr.listTextWith (naming : String → String) : List TypeExpr → String
  | [] => ""
  | [type] => type.textWith naming
  | type :: next :: rest =>
    type.textWith naming ++ ", " ++ TypeExpr.listTextWith naming (next :: rest)

/-- The bound of a wildcard behind its keyword, or nothing. -/
def TypeExpr.boundTextWith (naming : String → String) (keyword : String) :
    Option TypeExpr → String
  | none => ""
  | some bound => keyword ++ bound.textWith naming

end

/-- A type as text, with classes named in full. -/
def TypeExpr.text (type : TypeExpr) : String :=
  type.textWith id

/-- A class reference as text. -/
def ClassRef.text (ref : ClassRef) : String :=
  ref.toType.text

/-- A type parameter as text, with its bounds behind it. -/
def TypeParam.textWith (naming : String → String) (param : TypeParam) : String :=
  match param.bounds with
  | [] => param.name
  | bounds => param.name ++ " extends " ++ " & ".intercalate (bounds.map (·.textWith naming))

/-- A type parameter as text, with classes named in full. -/
def TypeParam.text (param : TypeParam) : String :=
  param.textWith id

end FluentHttp
