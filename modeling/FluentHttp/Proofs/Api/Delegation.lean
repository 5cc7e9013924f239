import FluentHttp.Api.Wrapper
import FluentHttp.Proofs.Contract
import FluentHttp.Proofs.Java.Scope
import Mathlib.Data.List.Forall2

/-!
# FluentHttp.Proofs.Api.Delegation

On what the methods of a wrapper call the methods of its builder.

The methods reach the builder by the name of the field that holds it. They take what the builder's
methods take, under the same names, so a parameter of that name hides the field. This is the only
way for a method to miss the builder (`delegates_iff`).
-/

namespace FluentHttp

/-! ### Types of results -/

/-- A type is a class of a given name, with any arguments. -/
theorem TypeExpr.hasRawName_iff {type : TypeExpr} {name : String} :
    type.hasRawName name = true ↔ ∃ args, type = .named name args := by
  cases type <;> simp [hasRawName, class?]

theorem TypeExpr.isVoid_iff {type : TypeExpr} : type.isVoid = true ↔ type = .void := by
  cases type <;> simp [isVoid]

namespace Api

open Java

/-! ### Bodies -/

/-- A wrapper reaches its builder by the name of the field, with a cast or without one. -/
theorem delegate_baseOf_cases (config : Config) (decl : TypeDecl) (wrapper : TypeExpr) :
    (baseOf config decl wrapper).delegate = .variable paramField ∨
      (baseOf config decl wrapper).delegate = .cast decl.selfType (.variable paramField) := by
  rw [baseOf]
  cases decl.superclass.bind TypeExpr.library? with
  | none => exact .inl rfl
  | some library =>
      dsimp only
      split
      · exact .inr rfl
      · split <;> exact .inl rfl

theorem value?_delegate_baseOf {Value : Type} (scope : Scope Value) (config : Config)
    (decl : TypeDecl) (wrapper : TypeExpr) :
    scope.value? (baseOf config decl wrapper).delegate = scope.lookup paramField := by
  rcases delegate_baseOf_cases config decl wrapper with hdelegate | hdelegate <;>
    rw [hdelegate] <;> rfl

/-- A call of a builder's method with all of its parameters, in order. -/
def passingCall (delegate : Expr) (method : MethodDecl) : Expr :=
  .call delegate method.name (method.params.map (.variable ·.name))

/-- A method of a wrapper makes one call. Behind it comes the wrapper where the builder returns
itself, nothing where it returns nothing, and else the result. -/
theorem delegatingMethod_cases (decl : TypeDecl) (wrapper : TypeExpr) (delegate : Expr)
    (method : MethodDecl) :
    let call := passingCall delegate method
    let member := delegatingMethod decl wrapper delegate method
    ((∃ args, method.returnType = .named decl.name args) ∧
        member.returnType = some wrapper ∧ member.body = [.evaluate call, .result .this]) ∨
      (method.returnType = .void ∧
        member.returnType = some .void ∧ member.body = [.evaluate call]) ∨
      ((method.returnType ≠ .void ∧ ∀ args, method.returnType ≠ .named decl.name args) ∧
        member.returnType = some method.returnType ∧ member.body = [.result call]) := by
  intro call member
  have hself := @TypeExpr.hasRawName_iff method.returnType decl.name
  have hvoid := @TypeExpr.isVoid_iff method.returnType
  simp only [member, delegatingMethod]
  by_cases hbuilder : method.returnType.hasRawName decl.name = true
  · rw [if_pos hbuilder]
    exact .inl ⟨hself.1 hbuilder, rfl, rfl⟩
  · rw [if_neg hbuilder]
    by_cases hnothing : method.returnType.isVoid = true
    · rw [if_pos hnothing]
      exact .inr (.inl ⟨hvoid.1 hnothing, rfl, rfl⟩)
    · rw [if_neg hnothing]
      have hother : ∀ args, method.returnType ≠ .named decl.name args :=
        fun args heq => hbuilder (hself.2 ⟨args, heq⟩)
      exact .inr (.inr ⟨⟨fun heq => hnothing (hvoid.2 heq), hother⟩, rfl, rfl⟩)

/-- The call is of the builder's method, on what the delegate stands for, with the values of the
parameters' names. -/
theorem invocations_delegatingMethod {Value : Type} (scope : Scope Value) (decl : TypeDecl)
    (wrapper : TypeExpr) (delegate : Expr) (method : MethodDecl) :
    scope.invocations (delegatingMethod decl wrapper delegate method).body =
      [{ target := scope.value? delegate
         method := method.name
         args := method.params.map (scope.lookup ·.name) }] := by
  have hargs : method.params.map (scope.lookup ·.name) =
      (method.params.map (Expr.variable ·.name)).map scope.value? := by
    rw [List.map_map]
    rfl
  rw [hargs]
  rcases delegatingMethod_cases decl wrapper delegate method with
    ⟨-, -, hbody⟩ | ⟨-, -, hbody⟩ | ⟨-, -, hbody⟩ <;> rw [hbody] <;> rfl

/-! ### Methods of a wrapper -/

/-- The method that a wrapper has for one of its builder. -/
def wrapperMethod (config : Config) (decl : TypeDecl) (method : MethodDecl) : Java.Member :=
  delegatingMethod decl (wrapperHead config decl).selfType
    (baseOf config decl (wrapperHead config decl).selfType).delegate method

theorem members_wrapper_eq (config : Config) (decl : TypeDecl) :
    (wrapper config decl).members =
      wrapperConstructor decl (wrapperName decl) ::
        decl.ownMethods.map (wrapperMethod config decl) := rfl

/-- The methods of a wrapper are those for the methods that the builder adds, in order. -/
theorem methods_wrapper (config : Config) (decl : TypeDecl) :
    (wrapper config decl).methods = decl.ownMethods.map (wrapperMethod config decl) := by
  rw [ClassDecl.methods, members_wrapper_eq, List.filter_cons_of_neg Bool.false_ne_true]
  exact List.filter_eq_self.2 (List.forall_mem_map.2 fun _ _ => rfl)

theorem constructors_wrapper (config : Config) (decl : TypeDecl) :
    (wrapper config decl).constructors = [wrapperConstructor decl (wrapperName decl)] := by
  have hmethods : (decl.ownMethods.map (wrapperMethod config decl)).filter (·.isConstructor) = [] :=
    List.filter_eq_nil_iff.2 (List.forall_mem_map.2 fun _ _ => Bool.false_ne_true)
  rw [ClassDecl.constructors, members_wrapper_eq, List.filter_cons_of_pos rfl, hmethods]

/-- The calls of a member, made on a wrapper of `wrapped`, with `args`. -/
def callsOn {Value : Type} (member : Java.Member) (self wrapped : Value)
    (others : List (String × Value)) (args : List Value) : List (Invocation Value) :=
  (member.scope self ((paramField, wrapped) :: others) args).invocations member.body

/-- The only call of a member is made on the wrapped builder, whatever that is, whatever other
fields there are, and whatever the arguments. -/
def ReachesBuilder (method : MethodDecl) (member : Java.Member) : Prop :=
  ∀ (Value : Type) (self wrapped : Value) (others : List (String × Value)) (args : List Value),
    args.length = method.params.length →
      (callsOn member self wrapped others args).map (·.target) = [some wrapped]

/-- The only call of a member is a builder's method, on the wrapped builder and with the arguments
in order. -/
def Delegates (method : MethodDecl) (member : Java.Member) : Prop :=
  ∀ (Value : Type) (self wrapped : Value) (others : List (String × Value)) (args : List Value),
    args.length = method.params.length →
      callsOn member self wrapped others args =
        [{ target := some wrapped, method := method.name, args := args.map some }]

theorem Delegates.reachesBuilder {method : MethodDecl} {member : Java.Member}
    (h : Delegates method member) : ReachesBuilder method member := by
  intro Value self wrapped others args hlength
  rw [h Value self wrapped others args hlength]
  rfl

section Method

variable {config : Config} {decl : TypeDecl} {method : MethodDecl}

/-- The call of a method of a wrapper is made on what the name of the field stands for. -/
theorem callsOn_wrapperMethod {Value : Type} (self wrapped : Value)
    (others : List (String × Value)) (args : List Value) :
    let scope :=
      (wrapperMethod config decl method).scope self ((paramField, wrapped) :: others) args
    callsOn (wrapperMethod config decl method) self wrapped others args =
      [{ target := scope.lookup paramField
         method := method.name
         args := (method.params.map (·.name)).map scope.lookup }] := by
  intro scope
  have hargs : (method.params.map (·.name)).map scope.lookup =
      method.params.map (scope.lookup ·.name) := by
    rw [List.map_map]
    rfl
  rw [callsOn, wrapperMethod, invocations_delegatingMethod, value?_delegate_baseOf, hargs]
  rfl

/-- Without a parameter named like the field, that name stands for the builder. -/
theorem lookup_paramField_of_not_mem {Value : Type} {self wrapped : Value}
    {others : List (String × Value)} {args : List Value}
    (hlength : args.length = method.params.length)
    (hmem : paramField ∉ method.params.map (·.name)) :
    ((wrapperMethod config decl method).scope self ((paramField, wrapped) :: others) args).lookup
      paramField = some wrapped := by
  rw [Member.lookup_scope_of_not_mem hlength hmem]
  exact List.lookup_cons_self

/-- A method of a wrapper reaches the builder unless it has a parameter named like the field. -/
theorem reachesBuilder_wrapperMethod_iff :
    ReachesBuilder method (wrapperMethod config decl method) ↔
      paramField ∉ method.params.map (·.name) := by
  constructor
  · intro hreaches hmem
    -- with arguments that are not the builder, the call is made on one of them
    obtain ⟨arg, harg, hlookup⟩ :=
      @Member.exists_mem_lookup_scope _ (wrapperMethod config decl method) true
        [(paramField, true)] (method.params.map fun _ => false) (List.length_map _) _ hmem
    have hcall := hreaches Bool true true [] (method.params.map fun _ => false) (by simp)
    rw [callsOn_wrapperMethod, List.map_singleton, hlookup] at hcall
    obtain ⟨-, -, rfl⟩ := List.mem_map.1 harg
    simp at hcall
  · intro hmem Value self wrapped others args hlength
    rw [callsOn_wrapperMethod, List.map_singleton, lookup_paramField_of_not_mem hlength hmem]

/-- If the names of the parameters are different as well, the arguments come in order. -/
theorem delegates_wrapperMethod (hnodup : (method.params.map (·.name)).Nodup)
    (hmem : paramField ∉ method.params.map (·.name)) :
    Delegates method (wrapperMethod config decl method) := by
  intro Value self wrapped others args hlength
  have hargs := @Member.map_lookup_scope _ (wrapperMethod config decl method) self
    ((paramField, wrapped) :: others) args hlength hnodup
  rw [callsOn_wrapperMethod, lookup_paramField_of_not_mem hlength hmem]
  exact congrArg (fun args => [Invocation.mk (some wrapped) method.name args]) hargs

end Method

/-- **What the methods of a wrapper call.** A wrapper has a method for each method that its builder
adds to its supertypes, with the same name and parameters. It reaches the wrapped builder exactly if
no parameter is named like the field that holds the builder. If the names of the parameters are
different, it then calls the method of the builder with its own arguments in order. -/
theorem delegates_iff (config : Config) (decl : TypeDecl) :
    List.Forall₂ (fun method member =>
        member.name = method.name ∧ member.params = method.params ∧
        (ReachesBuilder method member ↔ paramField ∉ method.params.map (·.name)) ∧
        ((method.params.map (·.name)).Nodup →
          (Delegates method member ↔ paramField ∉ method.params.map (·.name))))
      decl.ownMethods (wrapper config decl).methods := by
  rw [methods_wrapper, List.forall₂_map_right_iff, List.forall₂_same]
  intro method _
  exact ⟨rfl, rfl, reachesBuilder_wrapperMethod_iff, fun hnodup =>
    ⟨fun h => reachesBuilder_wrapperMethod_iff.1 h.reachesBuilder, delegates_wrapperMethod hnodup⟩⟩

/-- A method that takes a text and a number, the text under a given name. -/
def markMethod (name : String) : MethodDecl :=
  { name := "mark"
    modifiers := { isPublic := true }
    params :=
      [{ name, type := .ofLibrary .string [] }, { name := "times", type := .primitive .int }] }

/-- A builder with such a method. -/
def markBuilder (name : String) : TypeDecl :=
  { plainBuilder "com.example.TagParam" "tag" with members := [.method (markMethod name)] }

theorem delegates_iff_markBuilder :
    ∃ member, (wrapper {} (markBuilder "label")).methods = [member] ∧
      Delegates (markMethod "label") member := by
  have hall := delegates_iff {} (markBuilder "label")
  have hown : (markBuilder "label").ownMethods = [markMethod "label"] := rfl
  rw [hown] at hall
  obtain ⟨member, rest, ⟨-, -, -, hdelegates⟩, hnil, hmethods⟩ := List.forall₂_cons_left_iff.1 hall
  obtain rfl := List.forall₂_nil_left_iff.1 hnil
  exact ⟨member, hmethods, (hdelegates (by decide)).2 (by decide)⟩

/-- With a parameter named like the field, the call is made on the argument. -/
theorem not_reachesBuilder_markBuilder :
    let builder := markBuilder "param"
    Contract.checkType {} { types := [builder] } .param builder = .ok () ∧
      builder.ownMethods = [markMethod "param"] ∧
      ∃ member, (wrapper {} builder).methods = [member] ∧
        ¬ReachesBuilder (markMethod "param") member ∧ ¬Delegates (markMethod "param") member ∧
        callsOn member "wrapper" "builder" [] ["text", "number"] =
          [{ target := some "text", method := "mark", args := [some "text", some "number"] }] := by
  intro builder
  have hcontract : Contract.checkType {} { types := [builder] } .param builder = .ok () :=
    Contract.checkType_param_eq_ok_iff.2 ⟨rfl, rfl, Round.declReaches_of_superclass _ rfl rfl⟩
  have hmisses : ¬ReachesBuilder (markMethod "param") (wrapperMethod {} builder _) :=
    fun h => reachesBuilder_wrapperMethod_iff.1 h (by decide)
  exact ⟨hcontract, rfl, _, methods_wrapper {} builder, hmisses,
    fun h => hmisses h.reachesBuilder, rfl⟩

end Api

end FluentHttp
