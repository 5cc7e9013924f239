import FluentHttp.LibraryType

/-!
# FluentHttp.TypeExpr.Basic

The types that signatures are written in: what a declaration says about its supertypes, parameters
and results, and what generated members say about theirs.

A class is known by its qualified name alone. Which library type it is, is a function of that name
(`ClassRef.library?`), so the two never disagree.
-/

namespace FluentHttp

/-! ### Types -/

/-- A primitive type. -/
inductive Primitive where
  | boolean | byte | short | int | long | char | float | double
  deriving DecidableEq, Repr

/-- A type as it stands in a signature. -/
inductive TypeExpr where
  /-- No value at all. -/
  | void
  | primitive (type : Primitive)
  /-- A class or interface of a qualified name, with type arguments or, without them, raw. -/
  | named (name : String) (args : List TypeExpr)
  | array (component : TypeExpr)
  /-- A type variable. -/
  | variable (name : String)
  /-- A wildcard argument with its bounds from above and from below. -/
  | wildcard (upper lower : Option TypeExpr)
  deriving Repr, Inhabited

/-- A reference to a class or interface. -/
structure ClassRef where
  /-- The qualified name. -/
  name : String
  /-- The type arguments; a raw reference has none. -/
  args : List TypeExpr := []
  deriving Repr

/-- A type parameter of a class or method. -/
structure TypeParam where
  name : String
  /-- The upper bounds. -/
  bounds : List TypeExpr := []
  deriving Repr

/-! ### Equality -/

mutual

/-- Whether two types are equal. -/
def TypeExpr.decEq : (a b : TypeExpr) → Decidable (a = b)
  | .void, b => by
    cases b with
    | void => exact isTrue rfl
    | _ => exact isFalse nofun
  | .primitive p, b => by
    cases b with
    | primitive q => exact decidable_of_iff (p = q) (by simp)
    | _ => exact isFalse nofun
  | .named n as, b =>
    match b with
    | .named m bs =>
      have := TypeExpr.listDecEq as bs
      decidable_of_iff (n = m ∧ as = bs) (by simp)
    | .void | .primitive _ | .array _ | .variable _ | .wildcard _ _ => isFalse nofun
  | .array c, b =>
    match b with
    | .array d =>
      have := TypeExpr.decEq c d
      decidable_of_iff (c = d) (by simp)
    | .void | .primitive _ | .named _ _ | .variable _ | .wildcard _ _ => isFalse nofun
  | .variable n, b =>
    match b with
    | .variable m => decidable_of_iff (n = m) (by simp)
    | .void | .primitive _ | .named _ _ | .array _ | .wildcard _ _ => isFalse nofun
  | .wildcard u l, b =>
    match b with
    | .wildcard u' l' =>
      have := TypeExpr.optionDecEq u u'
      have := TypeExpr.optionDecEq l l'
      decidable_of_iff (u = u' ∧ l = l') (by simp)
    | .void | .primitive _ | .named _ _ | .array _ | .variable _ => isFalse nofun

/-- Whether two lists of types are equal. -/
def TypeExpr.listDecEq : (as bs : List TypeExpr) → Decidable (as = bs)
  | [], [] => isTrue rfl
  | [], _ :: _ => isFalse nofun
  | _ :: _, [] => isFalse nofun
  | a :: as, b :: bs =>
    have := TypeExpr.decEq a b
    have := TypeExpr.listDecEq as bs
    decidable_of_iff (a = b ∧ as = bs) (by simp)

/-- Whether two optional types are equal. -/
def TypeExpr.optionDecEq : (a b : Option TypeExpr) → Decidable (a = b)
  | none, none => isTrue rfl
  | none, some _ => isFalse nofun
  | some _, none => isFalse nofun
  | some a, some b =>
    have := TypeExpr.decEq a b
    decidable_of_iff (a = b) (by simp)

end

instance : DecidableEq TypeExpr := TypeExpr.decEq

deriving instance DecidableEq for ClassRef, TypeParam

/-! ### Primitive types -/

namespace Primitive

/-- All primitive types. -/
def all : List Primitive :=
  [.boolean, .byte, .short, .int, .long, .char, .float, .double]

/-- The keyword of a primitive type. -/
def keyword : Primitive → String
  | boolean => "boolean"
  | byte => "byte"
  | short => "short"
  | int => "int"
  | long => "long"
  | char => "char"
  | float => "float"
  | double => "double"

/-- The primitive type of a keyword. -/
def ofKeyword? (word : String) : Option Primitive :=
  all.find? (·.keyword == word)

end Primitive

/-! ### Class references -/

/-- What follows the last of the separators, or the whole text if it has none. -/
def afterLast (separator : Char) (text : List Char) : List Char :=
  (text.reverse.takeWhile (· != separator)).reverse

/-- The simple name in a qualified name: what follows the last dot, and in a nested class what
follows the last `$`. -/
def simpleName (qualified : String) : String :=
  String.ofList (afterLast '$' (afterLast '.' qualified.toList))

namespace ClassRef

/-- The reference as a type. -/
def toType (ref : ClassRef) : TypeExpr :=
  .named ref.name ref.args

/-- The library type that the reference names. -/
def library? (ref : ClassRef) : Option LibraryType :=
  LibraryType.ofName? ref.name

/-- Whether the reference names a given library type, with any arguments. -/
def isLibrary (ref : ClassRef) (type : LibraryType) : Bool :=
  ref.library? == some type

/-- The reference to a library type. -/
def ofLibrary (type : LibraryType) (args : List TypeExpr) : ClassRef :=
  { name := type.qualifiedName, args }

/-- The simple name of the class. -/
def simpleName (ref : ClassRef) : String :=
  FluentHttp.simpleName ref.name

/-- The package of the class, empty for a name without a dot. -/
def package (ref : ClassRef) : String :=
  String.ofList ((ref.name.toList.reverse.dropWhile (· != '.')).drop 1).reverse

/-- The reference without its type arguments. -/
def raw (ref : ClassRef) : ClassRef :=
  { name := ref.name }

end ClassRef

/-! ### Types by shape -/

namespace TypeExpr

/-- The type of a library class. -/
def ofLibrary (type : LibraryType) (args : List TypeExpr) : TypeExpr :=
  (ClassRef.ofLibrary type args).toType

/-- The class that a type refers to, if it is one. -/
def class? : TypeExpr → Option ClassRef
  | named name args => some { name, args }
  | _ => none

/-- The library type that a type names. -/
def library? (type : TypeExpr) : Option LibraryType :=
  type.class?.bind (·.library?)

/-- Whether a type names a given library type, with any arguments. -/
def isLibrary (type : TypeExpr) (library : LibraryType) : Bool :=
  type.library? == some library

/-- Whether there is no value of the type. -/
def isVoid : TypeExpr → Bool
  | void => true
  | _ => false

/-- Whether the type is an array type. -/
def isArray : TypeExpr → Bool
  | array _ => true
  | _ => false

/-- Whether the type is an array of a given library type. -/
def isArrayOf (type : TypeExpr) (library : LibraryType) : Bool :=
  match type with
  | array component => component.isLibrary library
  | _ => false

/-- Whether the type is a class of a given qualified name, with any arguments. -/
def hasRawName (type : TypeExpr) (name : String) : Bool :=
  type.class?.any (·.name == name)

end TypeExpr

/-- The type variable of a type parameter. -/
def TypeParam.toVariable (param : TypeParam) : TypeExpr :=
  .variable param.name

end FluentHttp
