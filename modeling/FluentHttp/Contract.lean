import FluentHttp.Config
import FluentHttp.Declaration.Supertypes
import FluentHttp.Diagnostic
import FluentHttp.TypeExpr.Printer

/-!
# FluentHttp.Contract

What each category of annotation demands of the declaration that carries it.

A contract is a list of clauses, most basic first. A declaration that breaks it is rejected with the
first clause that it breaks.
-/

namespace FluentHttp

/-! ### Violations -/

/-- How a declaration breaks the contract of its category. -/
inductive Violation where
  | notPublic
  | abstract
  /-- The supertypes do not lead to a marker. -/
  | missingMarker (marker : String)
  /-- A generic parser is final, so that it cannot be subclassed on the spot. -/
  | finalGenericParser
  /-- A generic parser has no constructor that such a subclass could call. -/
  | missingNoArgConstructor
  /-- The constructor for such a subclass is public or private. -/
  | noArgConstructorNotRestricted
  /-- A generic parser has no constructor for the tokens of its type parameters. -/
  | missingTypeTokenConstructor (signature : String)
  | notStatic
  /-- A client field is of another type. -/
  | wrongClientType (found : String)
  /-- A converter field is of a type that converts nothing. -/
  | notAConverter
  | emptyAlias
  /-- There are several default base URLs. -/
  | duplicateDefaultDomain (count : Nat)
  /-- The annotation is for the other sort of declaration. -/
  | misplaced (expected : String)
  deriving DecidableEq, Repr

/-- The wording of a violation, with the declaration as its subject. -/
def Violation.message : Violation → String
  | notPublic => "is not public"
  | abstract => "is abstract; abstract classes cannot be annotated"
  | missingMarker marker => s!"must inherit from {marker}"
  | finalGenericParser => "declares type parameters and cannot be declared final"
  | missingNoArgConstructor => "must declare a protected no-argument constructor"
  | noArgConstructorNotRestricted => "no-argument constructor must be declared protected"
  | missingTypeTokenConstructor signature => s!"must declare a '{signature}' constructor"
  | notStatic => "is not static"
  | wrongClientType found => s!"is a {found}, not an okhttp3.OkHttpClient"
  | notAConverter => "is not an rxhttp.wrapper.callback.IConverter"
  | emptyAlias => "has an empty name in its annotation"
  | duplicateDefaultDomain count =>
    s!"is one of {count} @DefaultDomain declarations; the annotation can only be used once"
  | misplaced expected => s!"carries an annotation that only applies to a {expected}"

/-- A violation by a declaration. -/
structure ContractError where
  category : Category
  /-- The qualified name of the declaration. -/
  declaration : String
  violation : Violation
  deriving DecidableEq, Repr

namespace ContractError

/-- The wording of a contract error. -/
def message (error : ContractError) : String :=
  s!"@{error.category.name} {error.declaration} {error.violation.message}"

/-- Whether the error ends the round, rather than only keeping it from generating anything. -/
def isFatal (error : ContractError) : Bool :=
  match error.violation with
  | .duplicateDefaultDomain _ => true
  | _ => false

/-- The error as a diagnostic. -/
def toDiagnostic (error : ContractError) : Diagnostic :=
  { severity := .error, declaration := some error.declaration, message := error.message }

end ContractError

/-! ### Contracts -/

/-- A demand, and the violation of declarations that do not meet it. -/
structure Clause where
  /-- The demand is met. -/
  holds : Bool
  violation : Violation

/-- The first violation of a list of clauses. -/
def Clause.firstBroken? (clauses : List Clause) : Option Violation :=
  (clauses.find? (!·.holds)).map (·.violation)

namespace Contract

/-- What classes of either category have to be: public and concrete. -/
def concrete (decl : TypeDecl) : List Clause :=
  [⟨decl.modifiers.isPublic, .notPublic⟩, ⟨!decl.modifiers.isAbstract, .abstract⟩]

/-- The supertypes of a class lead to a marker. -/
def inherits (round : Round) (decl : TypeDecl) (marker : LibraryType) : Clause :=
  ⟨round.declReaches decl marker, .missingMarker marker.qualifiedName⟩

/-- The constructor that takes the type tokens of a class, as messages spell it. -/
def tokenSignature (decl : TypeDecl) : String :=
  let tokens := decl.typeParams.map fun _ => LibraryType.reflectType.qualifiedName
  "public " ++ decl.simpleName ++ "(" ++ ", ".intercalate tokens ++ ")"

/-- Whether a class has a constructor for the tokens of its type parameters that is not private. -/
def hasTokenConstructor (decl : TypeDecl) : Bool :=
  decl.constructors.any fun ctor =>
    !ctor.modifiers.isPrivate && ctor.takesTypeTokens decl.typeParams.length

/-- What a generic parser has to be. Extensions subclass it on the spot, and reactive accessors pass
it type tokens. -/
def genericParser (config : Config) (decl : TypeDecl) : List Clause :=
  [⟨!decl.modifiers.isFinal, .finalGenericParser⟩,
   ⟨decl.noArgConstructor?.isSome, .missingNoArgConstructor⟩,
   ⟨decl.noArgConstructor?.any (·.modifiers.isRestricted), .noArgConstructorNotRestricted⟩,
   ⟨!config.reactive.isEnabled || hasTokenConstructor decl,
    .missingTypeTokenConstructor (tokenSignature decl)⟩]

/-- The contract of a class. -/
def ofType (config : Config) (round : Round) (decl : TypeDecl) : Category → List Clause
  | .param => concrete decl ++ [inherits round decl .param]
  | .parser =>
    concrete decl ++ (if decl.isGeneric then genericParser config decl else [])
      ++ [inherits round decl .parser]
  | .converter | .okClient | .domain | .defaultDomain => [⟨false, .misplaced "field"⟩]

/-- What fields of every category have to be: public and static. -/
def shared (field : FieldDecl) : List Clause :=
  [⟨field.modifiers.isPublic, .notPublic⟩, ⟨field.modifiers.isStatic, .notStatic⟩]

/-- The contract of a field. -/
def ofField (round : Round) (field : FieldDecl) : Category → List Clause
  | .param | .parser => [⟨false, .misplaced "class"⟩]
  | .converter => shared field ++ [⟨round.typeReaches field.type .converter, .notAConverter⟩]
  | .okClient =>
    shared field
      ++ [⟨field.type == .ofLibrary .okHttpClient [], .wrongClientType field.type.text⟩]
  | .domain | .defaultDomain => shared field

/-- Checks a class as a member of a category. -/
def checkType (config : Config) (round : Round) (category : Category) (decl : TypeDecl) :
    Except ContractError Unit :=
  match Clause.firstBroken? (ofType config round decl category) with
  | some violation => .error { category, declaration := decl.name, violation }
  | none => .ok ()

/-- Checks a field as a member of a category. -/
def checkField (round : Round) (category : Category) (field : FieldDecl) :
    Except ContractError Unit :=
  match Clause.firstBroken? (ofField round field category) with
  | some violation => .error { category, declaration := field.qualifiedName, violation }
  | none => .ok ()

end Contract

end FluentHttp
