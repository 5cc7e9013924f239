import FluentHttp.Declaration.Basic

/-!
# FluentHttp.Java.Syntax

Java classes as syntax trees: what the generator makes, before it becomes text. Only the forms that
generated code needs are here.
-/

namespace FluentHttp.Java

/-! ### Bodies -/

/-- A comparison of two operands. -/
inductive Comparison where
  | equal
  | notEqual
  deriving DecidableEq, Repr

/-- An expression. -/
inductive Expr where
  | this
  /-- `super(args)` -/
  | superCall (args : List Expr)
  /-- A parameter, a local, or a field by its simple name. -/
  | variable (name : String)
  | null
  | int (value : Int)
  | string (value : String)
  /-- `target.name` -/
  | field (target : Expr) (name : String)
  /-- `Owner.name` -/
  | staticField (owner : ClassRef) (name : String)
  /-- `target.method(args)` -/
  | call (target : Expr) (method : String) (args : List Expr)
  /-- `method(args)` -/
  | localCall (method : String) (args : List Expr)
  /-- `Owner.method(args)` -/
  | staticCall (owner : ClassRef) (method : String) (args : List Expr)
  /-- `new Class(args)`, with inferred type arguments if `diamond` -/
  | newObject (type : ClassRef) (diamond : Bool) (args : List Expr)
  /-- An object of a subclass without members. -/
  | newSubclass (type : TypeExpr) (args : List Expr)
  /-- An array of given elements. -/
  | newArray (component : TypeExpr) (elements : List Expr)
  /-- `(Type) expr` -/
  | cast (type : TypeExpr) (expr : Expr)
  /-- `Type.class` -/
  | classLiteral (type : TypeExpr)
  | compare (op : Comparison) (left right : Expr)
  deriving Repr, Inhabited, BEq

/-- A statement. -/
inductive Stmt where
  | evaluate (expr : Expr)
  | result (expr : Expr)
  /-- `Type name = init;` -/
  | declare (type : TypeExpr) (name : String) (init : Expr)
  | assign (target value : Expr)
  /-- `if (condition) body` -/
  | when (condition : Expr) (body : List Stmt)
  | raise (expr : Expr)
  deriving Repr, Inhabited, BEq

/-! ### Members -/

/-- A field. -/
structure Field where
  name : String
  modifiers : Modifiers
  type : TypeExpr
  deriving DecidableEq, Repr

/-- A method or a constructor. -/
structure Member where
  /-- The name; that of a constructor is the simple name of its class. -/
  name : String
  modifiers : Modifiers := .empty
  typeParams : List TypeParam := []
  params : List Parameter := []
  /-- The last parameter takes any number of arguments. -/
  varargs : Bool := false
  /-- The type of the result; a constructor has none. -/
  returnType : Option TypeExpr
  throws : List TypeExpr := []
  body : List Stmt := []
  deriving Repr, BEq

namespace Member

/-- Whether the member is a constructor. -/
def isConstructor (member : Member) : Bool :=
  member.returnType.isNone

end Member

/-- Whether a parameter list that is meant to end in a variable number of arguments can: its last
parameter has to be an array. -/
def takesVarargs (varargs : Bool) (params : List Parameter) : Bool :=
  varargs && params.getLast?.any (·.type.isArray)

/-! ### Classes -/

/-- A class, alone in its source file. -/
structure ClassDecl where
  /-- The package, empty for none. -/
  package : String
  /-- The simple name. -/
  name : String
  /-- The lines of the documentation. -/
  doc : List String := []
  modifiers : Modifiers := { isPublic := true }
  typeParams : List TypeParam := []
  superclass : Option TypeExpr := none
  fields : List Field := []
  members : List Member := []
  deriving Repr, BEq

namespace ClassDecl

/-- The qualified name of the class. -/
def qualifiedName (decl : ClassDecl) : String :=
  if decl.package.isEmpty then decl.name else decl.package ++ "." ++ decl.name

/-- The raw reference to the class. -/
def classRef (decl : ClassDecl) : ClassRef :=
  { name := decl.qualifiedName }

/-- The class applied to its own type variables. -/
def selfType (decl : ClassDecl) : TypeExpr :=
  .named decl.qualifiedName (decl.typeParams.map TypeParam.toVariable)

/-- The constructors, in order. -/
def constructors (decl : ClassDecl) : List Member :=
  decl.members.filter (·.isConstructor)

/-- The methods, in order. -/
def methods (decl : ClassDecl) : List Member :=
  decl.members.filter (!·.isConstructor)

/-- The methods of a name, in order. -/
def methodsNamed (decl : ClassDecl) (name : String) : List Member :=
  decl.methods.filter (·.name == name)

end ClassDecl

end FluentHttp.Java
