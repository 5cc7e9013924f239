import FluentHttp.Declaration.Basic
import FluentHttp.TypeExpr.Parser

/-!
# FluentHttp.Proofs.Declaration.Mentioned

The types that declarations mention: those of a class in the declaration itself and its annotation
and in the signatures of its members, those of a field in the declaration and its annotation.
-/

namespace FluentHttp

/-! ### Members -/

/-- The types in the signature of a method. -/
def MethodDecl.signatureTypes (method : MethodDecl) : List TypeExpr :=
  method.typeParams.flatMap (·.bounds) ++ method.params.map (·.type) ++ [method.returnType]
    ++ method.throws

/-- The types in the signature of a constructor. -/
def ConstructorDecl.signatureTypes (ctor : ConstructorDecl) : List TypeExpr :=
  ctor.params.map (·.type) ++ ctor.throws

/-- The types in the signature of a member. -/
def Member.signatureTypes : Member → List TypeExpr
  | .method decl => decl.signatureTypes
  | .constructor decl => decl.signatureTypes

/-! ### Declarations -/

/-- The types that the declaration of a class mentions. -/
def TypeDecl.mentionedTypes (decl : TypeDecl) : List TypeExpr :=
  decl.typeParams.flatMap (·.bounds) ++ decl.supertypes
    ++ decl.members.flatMap Member.signatureTypes ++ decl.wrappers

/-- The types that the declaration of a field mentions. -/
def FieldDecl.mentionedTypes (field : FieldDecl) : List TypeExpr :=
  field.type :: (field.annotation.map Annotation.wrappers).getD []

/-- The types that the declarations of a round mention. -/
def Round.mentionedTypes (round : Round) : List TypeExpr :=
  round.types.flatMap TypeDecl.mentionedTypes ++ round.fields.flatMap FieldDecl.mentionedTypes

/-! ### Part by part -/

section Parts

variable {p : TypeExpr → Prop}

theorem MethodDecl.forall_mem_signatureTypes {method : MethodDecl} :
    (∀ type ∈ method.signatureTypes, p type) ↔
      (∀ param ∈ method.typeParams, ∀ bound ∈ param.bounds, p bound) ∧
        (∀ param ∈ method.params, p param.type) ∧ p method.returnType ∧
          ∀ type ∈ method.throws, p type := by
  simp only [signatureTypes, List.forall_mem_append, List.forall_mem_flatMap, List.forall_mem_map,
    List.forall_mem_singleton, and_assoc]

theorem ConstructorDecl.forall_mem_signatureTypes {ctor : ConstructorDecl} :
    (∀ type ∈ ctor.signatureTypes, p type) ↔
      (∀ param ∈ ctor.params, p param.type) ∧ ∀ type ∈ ctor.throws, p type := by
  simp only [signatureTypes, List.forall_mem_append, List.forall_mem_map]

theorem forall_mem_wrappers {given? : Option Annotation} :
    (∀ type ∈ (given?.map Annotation.wrappers).getD [], p type) ↔
      ∀ given ∈ given?, ∀ type ∈ given.wrappers, p type := by
  cases given? <;> simp

theorem TypeDecl.forall_mem_mentionedTypes {decl : TypeDecl} :
    (∀ type ∈ decl.mentionedTypes, p type) ↔
      (∀ param ∈ decl.typeParams, ∀ bound ∈ param.bounds, p bound) ∧
        (∀ type ∈ decl.superclass, p type) ∧ (∀ type ∈ decl.interfaces, p type) ∧
          (∀ member ∈ decl.members, ∀ type ∈ member.signatureTypes, p type) ∧
            ∀ given ∈ decl.annotation, ∀ type ∈ given.wrappers, p type := by
  simp only [mentionedTypes, supertypes, wrappers, List.forall_mem_append, List.forall_mem_flatMap,
    Option.mem_toList, Option.mem_def, forall_mem_wrappers, and_assoc]

theorem FieldDecl.forall_mem_mentionedTypes {field : FieldDecl} :
    (∀ type ∈ field.mentionedTypes, p type) ↔
      p field.type ∧ ∀ given ∈ field.annotation, ∀ type ∈ given.wrappers, p type := by
  simp only [mentionedTypes, List.forall_mem_cons, forall_mem_wrappers]

theorem Round.forall_mem_mentionedTypes {round : Round} :
    (∀ type ∈ round.mentionedTypes, p type) ↔
      (∀ decl ∈ round.types, ∀ type ∈ decl.mentionedTypes, p type) ∧
        ∀ field ∈ round.fields, ∀ type ∈ field.mentionedTypes, p type := by
  simp only [mentionedTypes, List.forall_mem_append, List.forall_mem_flatMap]

end Parts

end FluentHttp
