import FluentHttp.Java.Syntax
import Mathlib.Data.List.Forall2
import Mathlib.Data.List.Nodup

/-!
# FluentHttp.Proofs.Java.Resolution

Which constructor a new object is made with.

An object creation names a class and passes arguments, and the types of these decide which of its
constructors runs: of those that may be called from where the code stands and that the arguments
fit, the one with narrower parameters than any other. What fits what is a matter of the types of the
whole program, so it is a relation here that only has to be a sensible one (`IsFit`).
-/

namespace FluentHttp.Java

/-! ### Object creations -/

mutual

/-- The object creations in an expression, each in front of those in its arguments. -/
def Expr.creations : Expr → List Expr
  | .this | .variable _ | .null | .int _ | .string _ | .staticField _ _ | .classLiteral _ => []
  | .field target _ => target.creations
  | .cast _ expr => expr.creations
  | .call target _ args => target.creations ++ Expr.creationsIn args
  | .superCall args | .localCall _ args | .staticCall _ _ args | .newArray _ args =>
    Expr.creationsIn args
  | .newObject type diamond args => .newObject type diamond args :: Expr.creationsIn args
  | .newSubclass type args => .newSubclass type args :: Expr.creationsIn args
  | .compare _ left right => left.creations ++ right.creations

/-- The object creations in some expressions. -/
def Expr.creationsIn : List Expr → List Expr
  | [] => []
  | expr :: rest => expr.creations ++ Expr.creationsIn rest

end

mutual

/-- The object creations in a statement. -/
def Stmt.creations : Stmt → List Expr
  | .evaluate expr | .result expr | .raise expr | .declare _ _ expr => expr.creations
  | .assign target value => target.creations ++ value.creations
  | .when condition body => condition.creations ++ bodyCreations body

/-- The object creations in a body. -/
def bodyCreations : List Stmt → List Expr
  | [] => []
  | stmt :: rest => stmt.creations ++ bodyCreations rest

end

theorem Expr.creationsIn_eq_nil {exprs : List Expr} (h : ∀ expr ∈ exprs, expr.creations = []) :
    Expr.creationsIn exprs = [] := by
  induction exprs with
  | nil => rfl
  | cons expr rest ih =>
      obtain ⟨hfirst, hrest⟩ := List.forall_mem_cons.1 h
      rw [creationsIn, hfirst, ih hrest, List.nil_append]

theorem bodyCreations_append (body rest : List Stmt) :
    bodyCreations (body ++ rest) = bodyCreations body ++ bodyCreations rest := by
  induction body with
  | nil => rfl
  | cons stmt body ih =>
      rw [List.cons_append, bodyCreations, bodyCreations, ih, List.append_assoc]

theorem bodyCreations_eq_nil {body : List Stmt} (h : ∀ stmt ∈ body, stmt.creations = []) :
    bodyCreations body = [] := by
  induction body with
  | nil => rfl
  | cons stmt rest ih =>
      obtain ⟨hfirst, hrest⟩ := List.forall_mem_cons.1 h
      rw [bodyCreations, hfirst, ih hrest, List.nil_append]

/-! ### Types of arguments -/

/-- The local that a statement declares, with its type. -/
def Stmt.typedLocal? : Stmt → Option (String × TypeExpr)
  | .declare type name _ => some (name, type)
  | .evaluate _ | .result _ | .assign _ _ | .when _ _ | .raise _ => none

/-- The parameters and the locals of a member, with their types. -/
def Member.typedNames (member : Member) : List (String × TypeExpr) :=
  member.params.map (fun param => (param.name, param.type))
    ++ member.body.filterMap Stmt.typedLocal?

/-- The type of an argument as a member passes it, where `siblings` are the methods of its class. -/
def Member.argType? (member : Member) (siblings : List Member) : Expr → Option TypeExpr
  | .variable name => member.typedNames.lookup name
  | .newArray component _ => some (.array component)
  | .localCall method _ => (siblings.find? (·.name == method)).bind (·.returnType)
  | _ => none

/-- In a list without repeated keys, every entry is found. -/
theorem lookup_of_mem_of_nodup {entries : List (String × TypeExpr)} {name : String}
    {type : TypeExpr} (h : (entries.map Prod.fst).Nodup) (hmem : (name, type) ∈ entries) :
    entries.lookup name = some type := by
  induction entries with
  | nil => cases hmem
  | cons entry rest ih =>
      obtain ⟨hfirst, hrest⟩ := List.nodup_cons.1 h
      rcases List.mem_cons.1 hmem with rfl | hmem
      · exact List.lookup_cons_self
      · have hne : (name == entry.1) = false := by
          rw [beq_eq_false_iff_ne]
          rintro rfl
          exact hfirst (List.mem_map.2 ⟨_, hmem, rfl⟩)
        rw [List.lookup_cons, hne]
        exact ih hrest hmem

section ArgType

variable {member : Member} {siblings : List Member}

theorem Member.argType?_param (h : (member.typedNames.map Prod.fst).Nodup) {param : Parameter}
    (hmem : param ∈ member.params) :
    member.argType? siblings (.variable param.name) = some param.type :=
  lookup_of_mem_of_nodup h (List.mem_append_left _ (List.mem_map_of_mem hmem))

theorem Member.argType?_local (h : (member.typedNames.map Prod.fst).Nodup) {type : TypeExpr}
    {name : String} {init : Expr} (hmem : .declare type name init ∈ member.body) :
    member.argType? siblings (.variable name) = some type :=
  lookup_of_mem_of_nodup h
    (List.mem_append_right _ (List.mem_filterMap.2 ⟨_, hmem, rfl⟩))

end ArgType

/-! ### What fits what -/

/-- Two spellings of one type. Strings and type tokens take no type arguments, so those that are
written behind them mean nothing. -/
inductive Respelled : TypeExpr → TypeExpr → Prop
  | refl (type : TypeExpr) : Respelled type type
  | string (args : List TypeExpr) : Respelled (.ofLibrary .string []) (.ofLibrary .string args)
  | token (args : List TypeExpr) :
    Respelled (.ofLibrary .reflectType []) (.ofLibrary .reflectType args)
  | array {component other : TypeExpr} (h : Respelled component other) :
    Respelled (.array component) (.array other)

/-- A relation says whether an argument of one type fits a parameter of another: a type fits itself,
and how it is spelled does not matter. -/
structure IsFit (fits : TypeExpr → TypeExpr → Prop) : Prop where
  refl : ∀ type, fits type type
  respelled : ∀ {type other : TypeExpr}, Respelled type other →
    ∀ wider, fits type wider ↔ fits other wider

/-! ### Constructors -/

/-- The types that a constructor takes. -/
def takenTypes (ctor : ConstructorDecl) : List TypeExpr :=
  ctor.params.map (·.type)

/-- Code in a package may call a constructor. A protected one may be called from the package of its
class too, but from elsewhere only for a subclass. -/
def IsCallable (package : String) (decl : TypeDecl) (ctor : ConstructorDecl) : Prop :=
  ctor.modifiers.isPublic = true ∨
    decl.classRef.package = package ∧ ctor.modifiers.isPrivate = false

/-- A constructor of a class is the one that code in a package calls with arguments of given types:
they fit it, and it is narrower than all others that they fit. No argument has to be converted or
collected into an array, as long as some constructor takes them as they are. -/
structure Resolves (fits : TypeExpr → TypeExpr → Prop) (package : String) (decl : TypeDecl)
    (types : List TypeExpr) (ctor : ConstructorDecl) : Prop where
  declared : ctor ∈ decl.constructors
  callable : IsCallable package decl ctor
  fit : List.Forall₂ fits types (takenTypes ctor)
  narrower : ∀ other ∈ decl.constructors, IsCallable package decl other →
    List.Forall₂ fits types (takenTypes other) → other ≠ ctor →
      List.Forall₂ fits (takenTypes ctor) (takenTypes other) ∧
        ¬List.Forall₂ fits (takenTypes other) (takenTypes ctor)

section Resolves

variable {fits : TypeExpr → TypeExpr → Prop} {package : String} {decl : TypeDecl}
  {types : List TypeExpr} {ctor other : ConstructorDecl}

theorem IsFit.fits_of_respelled (hfits : IsFit fits) {type spelled : TypeExpr}
    (h : Respelled type spelled) : fits type spelled :=
  (hfits.respelled h spelled).2 (hfits.refl spelled)

theorem IsFit.forall₂_of_respelled (hfits : IsFit fits) {spelled wider : List TypeExpr}
    (h : List.Forall₂ Respelled types spelled) :
    List.Forall₂ fits types wider ↔ List.Forall₂ fits spelled wider := by
  induction h generalizing wider with
  | nil => rfl
  | cons hfirst _ ih =>
      cases wider with
      | nil => exact iff_of_false nofun nofun
      | cons first rest =>
          rw [List.forall₂_cons, List.forall₂_cons, hfits.respelled hfirst, ih]

/-- **Arguments of exactly the types that a constructor takes** resolve to this constructor, or to
none. -/
theorem Resolves.eq_of_respelled (hfits : IsFit fits) (h : Resolves fits package decl types other)
    (hdeclared : ctor ∈ decl.constructors) (hcallable : IsCallable package decl ctor)
    (htypes : List.Forall₂ Respelled types (takenTypes ctor)) : other = ctor := by
  by_contra hne
  have hfit : List.Forall₂ fits types (takenTypes ctor) :=
    htypes.imp fun _ _ => hfits.fits_of_respelled
  -- what the arguments fit, the constructor is at least as narrow as
  have hnarrow := (hfits.forall₂_of_respelled htypes).1 h.fit
  exact (h.narrower ctor hdeclared hcallable hfit (Ne.symm hne)).2 hnarrow

end Resolves

end FluentHttp.Java
