import FluentHttp.Java.Syntax

/-!
# FluentHttp.Java.Imports

How a source file names the classes it mentions.

A simple name can stand for one class only. The class of the file has its own; every other simple
name belongs to the first class that bears it, in the order of qualified names. That class is
imported, unless it is visible without, and all others are named in full. A nested class, known by
the `$` in its name, is never imported.
-/

namespace FluentHttp

/-! ### The classes a tree mentions -/

mutual

/-- The qualified names of the classes in a type. -/
def TypeExpr.classNames : TypeExpr → List String
  | .named name args => name :: TypeExpr.listClassNames args
  | .array component => component.classNames
  | .wildcard upper lower =>
    TypeExpr.optionClassNames upper ++ TypeExpr.optionClassNames lower
  | .void | .primitive _ | .variable _ => []

/-- The qualified names of the classes in some types. -/
def TypeExpr.listClassNames : List TypeExpr → List String
  | [] => []
  | type :: rest => type.classNames ++ TypeExpr.listClassNames rest

/-- The qualified names of the classes in a type that may be absent. -/
def TypeExpr.optionClassNames : Option TypeExpr → List String
  | none => []
  | some type => type.classNames

end

/-- The qualified names of the classes in a reference. -/
def ClassRef.classNames (ref : ClassRef) : List String :=
  ref.name :: TypeExpr.listClassNames ref.args

/-- The qualified names of the classes in the bounds of a type parameter. -/
def TypeParam.classNames (param : TypeParam) : List String :=
  TypeExpr.listClassNames param.bounds

namespace Java

mutual

/-- The qualified names of the classes in an expression. -/
def Expr.classNames : Expr → List String
  | .this | .variable _ | .null | .int _ | .string _ => []
  | .superCall args | .localCall _ args => Expr.listClassNames args
  | .field target _ => target.classNames
  | .staticField owner _ => owner.classNames
  | .call target _ args => target.classNames ++ Expr.listClassNames args
  | .staticCall owner _ args => owner.classNames ++ Expr.listClassNames args
  | .newObject type _ args => type.classNames ++ Expr.listClassNames args
  | .newSubclass type args | .newArray type args => type.classNames ++ Expr.listClassNames args
  | .cast type expr => type.classNames ++ expr.classNames
  | .classLiteral type => type.classNames
  | .compare _ left right => left.classNames ++ right.classNames

/-- The qualified names of the classes in some expressions. -/
def Expr.listClassNames : List Expr → List String
  | [] => []
  | expr :: rest => expr.classNames ++ Expr.listClassNames rest

end

mutual

/-- The qualified names of the classes in a statement. -/
def Stmt.classNames : Stmt → List String
  | .evaluate expr | .result expr | .raise expr => expr.classNames
  | .declare type _ init => type.classNames ++ init.classNames
  | .assign target value => target.classNames ++ value.classNames
  | .when condition body => condition.classNames ++ Stmt.listClassNames body

/-- The qualified names of the classes in some statements. -/
def Stmt.listClassNames : List Stmt → List String
  | [] => []
  | stmt :: rest => stmt.classNames ++ Stmt.listClassNames rest

end

/-- The qualified names of the classes in a member. -/
def Member.classNames (member : Member) : List String :=
  member.typeParams.flatMap TypeParam.classNames
    ++ TypeExpr.optionClassNames member.returnType
    ++ member.params.flatMap (·.type.classNames)
    ++ TypeExpr.listClassNames member.throws
    ++ Stmt.listClassNames member.body

/-- The qualified names of the classes that a class mentions. -/
def ClassDecl.classNames (decl : ClassDecl) : List String :=
  decl.typeParams.flatMap TypeParam.classNames
    ++ TypeExpr.optionClassNames decl.superclass
    ++ decl.fields.flatMap (·.type.classNames)
    ++ decl.members.flatMap Member.classNames

/-! ### Sorted names -/

/-- Puts a name in its place among sorted names, once. -/
def insertName (name : String) : List String → List String
  | [] => [name]
  | other :: rest =>
    if name < other then name :: other :: rest
    else if name = other then other :: rest
    else other :: insertName name rest

/-- The distinct names of a list, in ascending order of their code points. -/
def sortNames (names : List String) : List String :=
  names.foldr insertName []

/-! ### Claims -/

/-- The simple names that are taken in a source file. -/
structure Imports where
  /-- The class that each simple name stands for. -/
  claims : List (String × String)
  /-- The classes to import. -/
  lines : List String := []
  deriving DecidableEq, Repr

/-- Whether a class has a `$` in its name, and so is a nested one. -/
def isNested (qualified : String) : Bool :=
  qualified.toList.contains '$'

/-- Whether a class is out of sight in a package unless it is imported, and can be. -/
def needsImport (package : String) (qualified : String) : Bool :=
  let home := ClassRef.package { name := qualified }
  !home.isEmpty && home != "java.lang" && home != package && !isNested qualified

namespace Imports

/-- Gives a class its simple name, unless another class has that already. -/
def claim (package : String) (imports : Imports) (qualified : String) : Imports :=
  let simple := simpleName qualified
  if (imports.claims.lookup simple).isSome then imports
  else
    { claims := imports.claims ++ [(simple, qualified)]
      lines := imports.lines ++ if needsImport package qualified then [qualified] else [] }

/-- The imports of a class. -/
def ofClass (decl : ClassDecl) : Imports :=
  (sortNames decl.classNames).foldl (claim decl.package)
    { claims := [(decl.name, decl.qualifiedName)] }

/-- How a class is named: simply if its simple name stands for it, else in full. -/
def naming (imports : Imports) (qualified : String) : String :=
  let simple := simpleName qualified
  if imports.claims.lookup simple = some qualified ∧ ¬ isNested qualified then simple
  else qualified

end Imports

end Java

end FluentHttp
