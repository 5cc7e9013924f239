import FluentHttp.Proofs.Api.PassedOn
import FluentHttp.Proofs.Api.Delegation

/-!
# FluentHttp.Proofs.Api.OfferedMethods

What the wrapper of a builder consists of.

A wrapper has a constructor that takes the builder, and behind it one method for each method that
the builder has to offer, in the order of the builder's members (`members_wrapper`). The methods are
declared like those of the builder (`DeclaredLike`). What the builder's method returns tells what
the wrapper's method does about it: where that is the builder, the wrapper is returned, and any
other result is handed back (`Answers`).
-/

namespace FluentHttp.Api

open Java

/-! ### What a builder offers -/

/-- A method that others can call on an instance and that overrides none of a supertype. -/
def IsOffered (method : MethodDecl) : Prop :=
  method.modifiers.isPublic = true ∧ method.modifiers.isStatic = false ∧ method.overrides = false

instance (method : MethodDecl) : Decidable (IsOffered method) :=
  inferInstanceAs (Decidable (_ ∧ _ ∧ _))

/-- The method that a member of a builder brings to the wrapper, if any. -/
def offeredMethod? : FluentHttp.Member → Option MethodDecl
  | .method method => if IsOffered method then some method else none
  | .constructor _ => none

theorem ownMethods_eq_filterMap (decl : TypeDecl) :
    decl.ownMethods = decl.members.filterMap offeredMethod? := by
  unfold TypeDecl.ownMethods TypeDecl.methods
  rw [List.filter_filterMap]
  refine List.filterMap_congr fun member _ => ?_
  cases member with
  | constructor ctor => rfl
  | method method =>
      by_cases hoffered : IsOffered method
      · obtain ⟨hpublic, hinstance, hnew⟩ := hoffered
        simp [offeredMethod?, IsOffered, hpublic, hinstance, hnew, Option.filter]
      · have hown : ¬((method.modifiers.isPublic && !method.modifiers.isStatic &&
            !method.overrides) = true) := by
          simpa [IsOffered, and_assoc] using hoffered
        simp only [offeredMethod?, Option.filter, if_neg hoffered, if_neg hown]

/-! ### What a wrapper makes of it -/

/-- A constructor that takes a builder and hands it to the superclass. -/
structure TakesBuilder (decl : TypeDecl) (name : String) (construct : Java.Member) : Prop where
  isConstructor : construct.returnType = none
  name : construct.name = name
  modifiers : construct.modifiers = { isPublic := true }
  passes : ∃ param : Parameter, param.type = decl.selfType ∧ construct.params = [param] ∧
    construct.body = [.evaluate (.superCall [.variable param.name])]

/-- A member is declared as a method is. -/
structure DeclaredLike (method : MethodDecl) (member : Java.Member) : Prop where
  name : member.name = method.name
  modifiers : member.modifiers = method.modifiers
  typeParams : member.typeParams = method.typeParams
  params : member.params = method.params
  throws : member.throws = method.throws
  varargs : member.varargs = true ↔
    method.varargs = true ∧ ∃ last, method.params.getLast? = some last ∧ last.type.isArray = true

/-- What a member does about the result of `call`, which is the call of a method of a builder, where
`self` is the type of the wrapper. -/
structure Answers (decl : TypeDecl) (self : TypeExpr) (call : Expr) (method : MethodDecl)
    (member : Java.Member) : Prop where
  /-- The wrapper is returned in place of the builder. -/
  chains : (member.returnType = some self ∧ member.body = [.evaluate call, .result .this]) ↔
    ∃ args, method.returnType = .named decl.name args
  nothing : (member.returnType = some .void ∧ member.body = [.evaluate call]) ↔
    method.returnType = .void
  /-- Any other result is handed back. -/
  other : (member.returnType = some method.returnType ∧ member.body = [.result call]) ↔
    method.returnType ≠ .void ∧ ∀ args, method.returnType ≠ .named decl.name args

theorem answers_delegatingMethod (decl : TypeDecl) (wrapper : TypeExpr) (delegate : Expr)
    (method : MethodDecl) :
    Answers decl wrapper (passingCall delegate method) method
      (delegatingMethod decl wrapper delegate method) := by
  -- the three bodies differ, so in each case two of the three statements are refuted on both sides
  rcases delegatingMethod_cases decl wrapper delegate method with
    ⟨⟨args, hreturns⟩, htype, hbody⟩ | ⟨hreturns, htype, hbody⟩ | ⟨⟨hsome, hother⟩, htype, hbody⟩
  · constructor <;> simp [htype, hbody, hreturns]
  · constructor <;> simp [htype, hbody, hreturns]
  · constructor <;> simp [htype, hbody, hsome, hother]

/-- **What a wrapper consists of.** A constructor takes the builder and hands it to the superclass.
It is the only one. Behind it comes one method for each method that the builder offers, in the order
of its members. It is declared as the builder's method is and calls that method on the builder, with
all parameters in order. It returns the wrapper exactly if the builder's method returns a builder,
nothing exactly if that returns nothing, and else the result of the call. -/
theorem members_wrapper (config : Config) (decl : TypeDecl) :
    ∃ delegate construct methods,
      (delegate = .variable "param" ∨ delegate = .cast decl.selfType (.variable "param")) ∧
      (wrapper config decl).members = construct :: methods ∧
      (wrapper config decl).constructors = [construct] ∧
      TakesBuilder decl (wrapper config decl).name construct ∧
      List.Forall₂ (fun method member =>
          DeclaredLike method member ∧
            Answers decl (wrapper config decl).selfType (passingCall delegate method) method member)
        (decl.members.filterMap offeredMethod?) methods := by
  refine ⟨(baseOf config decl (wrapperHead config decl).selfType).delegate, _,
    decl.ownMethods.map (wrapperMethod config decl), delegate_baseOf_cases ..,
    members_wrapper_eq config decl, constructors_wrapper config decl,
    ⟨rfl, rfl, rfl, _, rfl, rfl, rfl⟩, ?_⟩
  rw [← ownMethods_eq_filterMap, List.forall₂_map_right_iff, List.forall₂_same]
  intro method _
  exact ⟨⟨rfl, rfl, rfl, rfl, rfl, takesVarargs_iff⟩, answers_delegatingMethod ..⟩

end FluentHttp.Api
