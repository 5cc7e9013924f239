import FluentHttp.Java.Syntax
import Mathlib.Data.List.Nodup

/-!
# FluentHttp.Proofs.Java.Scope

Which names a member declares, and what simple names stand for in its body.

A parameter hides a field of its name, so a body that means a field may read a parameter. Only as
much of the meaning of bodies is here as that takes: the values of names, and the calls that a body
makes on them.
-/

namespace FluentHttp.Java

/-! ### Declared names -/

mutual

/-- The names of the locals that a statement declares, in its inner statements too. -/
def Stmt.localNames : Stmt → List String
  | .declare _ name _ => [name]
  | .when _ body => bodyLocalNames body
  | .evaluate _ | .result _ | .assign _ _ | .raise _ => []

/-- The names of the locals that a body declares. -/
def bodyLocalNames : List Stmt → List String
  | [] => []
  | stmt :: rest => stmt.localNames ++ bodyLocalNames rest

end

/-- The names that a member declares: its parameters and the locals of its body. -/
def Member.declaredNames (member : Member) : List String :=
  member.params.map (·.name) ++ bodyLocalNames member.body

theorem bodyLocalNames_append (body rest : List Stmt) :
    bodyLocalNames (body ++ rest) = bodyLocalNames body ++ bodyLocalNames rest := by
  induction body with
  | nil => rfl
  | cons stmt body ih =>
      rw [List.cons_append, bodyLocalNames, bodyLocalNames, ih, List.append_assoc]

@[simp] theorem bodyLocalNames_result (expr : Expr) : bodyLocalNames [.result expr] = [] :=
  rfl

/-! ### Values of names -/

/-- What simple names stand for while an instance method runs. -/
structure Scope (Value : Type) where
  /-- The object that the method runs on. -/
  self : Value
  /-- The parameters with their arguments. -/
  params : List (String × Value)
  /-- The fields of the object. -/
  fields : List (String × Value)

/-- A call of an instance method, where a name that stands for nothing leaves a gap. -/
structure Invocation (Value : Type) where
  target : Option Value
  method : String
  args : List (Option Value)
  deriving DecidableEq

namespace Scope

variable {Value : Type} (scope : Scope Value)

/-- The value of a simple name. A parameter hides a field. -/
def lookup (name : String) : Option Value :=
  (scope.params.lookup name).or (scope.fields.lookup name)

/-- The object that an expression without calls stands for. A cast does not change it. -/
def value? : Expr → Option Value
  | .this => some scope.self
  | .variable name => scope.lookup name
  | .cast _ expr => value? expr
  | _ => none

/-- The call that an expression makes. -/
def invocation? : Expr → Option (Invocation Value)
  | .call target method args =>
    some { target := scope.value? target, method, args := args.map scope.value? }
  | _ => none

/-- The calls that the statements of a body make, in order. -/
def invocations (body : List Stmt) : List (Invocation Value) :=
  body.filterMap fun
    | .evaluate expr | .result expr => scope.invocation? expr
    | _ => none

end Scope

/-! ### Arguments by name -/

section Arguments

variable {Value : Type} {names : List String} {values : List Value}

/-- A name has an argument exactly if it is the name of a parameter. -/
theorem lookup_zip_eq_none_iff (hlength : values.length = names.length) (name : String) :
    (names.zip values).lookup name = none ↔ name ∉ names := by
  have hfst : (names.zip values).map Prod.fst = names :=
    List.map_fst_zip (Nat.le_of_eq hlength.symm)
  rw [List.lookup_eq_none_iff]
  constructor
  · intro h hmem
    rw [← hfst] at hmem
    obtain ⟨entry, hentry, rfl⟩ := List.mem_map.1 hmem
    simpa using h entry hentry
  · intro hmem entry hentry
    have hne : name ≠ entry.1 := by
      rintro rfl
      exact hmem (List.of_mem_zip hentry).1
    simpa using hne

theorem exists_mem_lookup_zip (hlength : values.length = names.length) {name : String}
    (hmem : name ∈ names) : ∃ value ∈ values, (names.zip values).lookup name = some value := by
  cases hlookup : (names.zip values).lookup name with
  | none => exact absurd hmem ((lookup_zip_eq_none_iff hlength name).1 hlookup)
  | some value =>
      obtain ⟨before, after, hzip, -⟩ := List.lookup_eq_some_iff.1 hlookup
      have hentry : (name, value) ∈ names.zip values := by simp [hzip]
      exact ⟨value, (List.of_mem_zip hentry).2, rfl⟩

/-- Parameters with different names have their arguments, in order. -/
theorem map_lookup_zip (hnodup : names.Nodup) (hlength : values.length = names.length) :
    names.map (List.lookup · (names.zip values)) = values.map some := by
  induction names generalizing values with
  | nil =>
      obtain rfl := List.length_eq_zero_iff.1 hlength
      rfl
  | cons name rest ih =>
      obtain ⟨value, others, rfl⟩ := List.exists_cons_of_length_eq_add_one hlength
      obtain ⟨hfirst, hrest⟩ := List.nodup_cons.1 hnodup
      have hothers : rest.map (List.lookup · ((name, value) :: rest.zip others)) =
          rest.map (List.lookup · (rest.zip others)) := by
        refine List.map_congr_left fun other hother => ?_
        have hne : (other == name) = false := by
          rw [beq_eq_false_iff_ne]
          rintro rfl
          exact hfirst hother
        rw [List.lookup_cons, hne]
      rw [List.zip_cons_cons, List.map_cons, List.lookup_cons_self, hothers,
        ih hrest (Nat.succ.inj hlength), List.map_cons]

end Arguments

/-! ### Calls of members -/

/-- The scope of a member that is called with given arguments on an object with given fields. -/
def Member.scope {Value : Type} (member : Member) (self : Value) (fields : List (String × Value))
    (args : List Value) : Scope Value :=
  { self, params := (member.params.map (·.name)).zip args, fields }

section Scope

variable {Value : Type} {member : Member} {self : Value} {fields : List (String × Value)}
  {args : List Value}

/-- The name of a parameter stands for an argument. -/
theorem Member.exists_mem_lookup_scope (hlength : args.length = member.params.length)
    {name : String} (hmem : name ∈ member.params.map (·.name)) :
    ∃ arg ∈ args, (member.scope self fields args).lookup name = some arg := by
  obtain ⟨arg, harg, hlookup⟩ := exists_mem_lookup_zip (by simpa using hlength) hmem
  exact ⟨arg, harg, by rw [Scope.lookup, scope, hlookup, Option.some_or]⟩

/-- Any other name stands for a field. -/
theorem Member.lookup_scope_of_not_mem (hlength : args.length = member.params.length)
    {name : String} (hmem : name ∉ member.params.map (·.name)) :
    (member.scope self fields args).lookup name = fields.lookup name := by
  rw [Scope.lookup, scope, (lookup_zip_eq_none_iff (by simpa using hlength) name).2 hmem,
    Option.none_or]

/-- The names of parameters stand for the arguments, in order, if they are different. -/
theorem Member.map_lookup_scope (hlength : args.length = member.params.length)
    (hnodup : (member.params.map (·.name)).Nodup) :
    (member.params.map (·.name)).map (member.scope self fields args).lookup = args.map some := by
  have hlength : args.length = (member.params.map (·.name)).length := by simpa using hlength
  rw [← map_lookup_zip hnodup hlength]
  refine List.map_congr_left fun name hmem => ?_
  obtain ⟨arg, -, hlookup⟩ := exists_mem_lookup_zip hlength hmem
  rw [Scope.lookup, scope, hlookup, Option.some_or]

end Scope

end FluentHttp.Java
