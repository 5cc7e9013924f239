import FluentHttp.Proofs.Api.Places

/-!
# FluentHttp.Proofs.Api.Element

What the accessors that parse into a container hand out, and what they tell the parser.

The parser is told by its tokens to parse into the container of its type variable. The type that the
accessor promises is found without looking for the variable: it puts each argument of the product
into the container, whatever the argument is, or else the product as a whole. The two are the same
for few products (`inContainer_eq_replace_iff`).
-/

namespace FluentHttp

namespace TypeExpr

/-! ### Type variables -/

section Replace

variable (replaced : String) (new : TypeExpr)

mutual

/-- A type with another one in the place of a type variable. -/
def replace : TypeExpr → TypeExpr
  | .void => .void
  | .primitive type => .primitive type
  | .named name args => .named name (replaceAll args)
  | .array component => .array (replace component)
  | .variable name => if name = replaced then new else .variable name
  | .wildcard upper lower => .wildcard (replaceOption upper) (replaceOption lower)

/-- A list of types with another one in the place of a type variable. -/
def replaceAll : List TypeExpr → List TypeExpr
  | [] => []
  | type :: types => replace type :: replaceAll types

/-- An optional type with another one in the place of a type variable. -/
def replaceOption : Option TypeExpr → Option TypeExpr
  | none => none
  | some type => some (replace type)

end

end Replace

theorem replaceAll_eq_map (replaced : String) (new : TypeExpr) (types : List TypeExpr) :
    replaceAll replaced new types = types.map (replace replaced new) := by
  induction types with
  | nil => rfl
  | cons type types ih => rw [replaceAll, ih, List.map_cons]

@[simp] theorem replace_named (replaced : String) (new : TypeExpr) (name : String)
    (args : List TypeExpr) :
    replace replaced new (.named name args) = .named name (args.map (replace replaced new)) := by
  rw [replace, replaceAll_eq_map]

@[simp] theorem replace_variable_self (replaced : String) (new : TypeExpr) :
    replace replaced new (.variable replaced) = new := by
  rw [replace.eq_def]
  exact if_pos rfl

/-- A type variable in any number of containers of one kind. -/
inductive Nested (container name : String) : TypeExpr → Prop where
  | bare : Nested container name (.variable name)
  | wrap {type : TypeExpr} (h : Nested container name type) :
    Nested container name (.named container [type])

variable {container name : String}

/-- To put the variable into the container is to put the whole type into it, for a type that is the
variable in such containers. -/
theorem Nested.replace_eq {type : TypeExpr} (h : Nested container name type) :
    replace name (.named container [.variable name]) type = .named container [type] := by
  induction h with
  | bare => rw [replace_variable_self]
  | wrap _ ih => rw [replace_named, List.map_singleton, ih]

/-- There are no other types of which that is true. -/
theorem nested_of_replace_eq (type : TypeExpr)
    (h : replace name (.named container [.variable name]) type = .named container [type]) :
    Nested container name type := by
  match type with
  | .void | .primitive _ | .array _ | .wildcard _ _ => simp [replace] at h
  | .variable other =>
      rw [replace.eq_def] at h
      by_cases heq : other = name
      · exact heq ▸ .bare
      · simp [heq] at h
  | .named _ [] => simp at h
  | .named _ (_ :: _ :: _) => simp at h
  | .named outer [arg] =>
      rw [replace_named, List.map_singleton] at h
      obtain ⟨houter, hargs⟩ := TypeExpr.named.inj h
      rw [houter] at hargs ⊢
      exact .wrap (nested_of_replace_eq arg (List.singleton_inj.1 hargs))

theorem replace_eq_iff_nested {type : TypeExpr} :
    replace name (.named container [.variable name]) type = .named container [type] ↔
      Nested container name type :=
  ⟨nested_of_replace_eq type, Nested.replace_eq⟩

end TypeExpr

namespace Api

open TypeExpr

/-! ### Products in containers -/

/-- A product with arguments has each of them put into the container, and any other product is put
into it as a whole. -/
theorem inContainer_cases (container : ClassRef) (product : TypeExpr) :
    (∃ name args, product = .named name args ∧ args ≠ [] ∧
      inContainer container product =
        .named name (args.map fun arg => .named container.name [arg])) ∨
    ((∀ name args, product = .named name args → args = []) ∧
      inContainer container product = .named container.name [product]) := by
  match product with
  | .named name (first :: rest) => exact .inl ⟨name, first :: rest, rfl, by simp, rfl⟩
  | .named _ [] => exact .inr ⟨by rintro _ _ ⟨rfl, rfl⟩; rfl, rfl⟩
  | .void | .primitive _ | .array _ | .variable _ | .wildcard _ _ => exact .inr ⟨nofun, rfl⟩

/-- A product in a container is the product with the container in the place of the variable exactly
if it is the variable, or if its arguments are nothing but the variable in such containers. -/
theorem inContainer_eq_replace_iff {container : ClassRef} {product : TypeExpr} {name : String} :
    inContainer container product =
        replace name (.named container.name [.variable name]) product ↔
      product = .variable name ∨
        ∃ outer args, product = .named outer args ∧ args ≠ [] ∧
          ∀ arg ∈ args, Nested container.name name arg := by
  rcases inContainer_cases container product with
    ⟨outer, args, rfl, hne, hcontainer⟩ | ⟨hnone, hcontainer⟩
  · have hargs : args.map (fun arg => named container.name [arg]) =
        args.map (replace name (.named container.name [.variable name])) ↔
          ∀ arg ∈ args, Nested container.name name arg := by
      simp only [List.map_inj_left, ← replace_eq_iff_nested, eq_comm]
    rw [hcontainer, replace_named, TypeExpr.named.injEq, eq_self, true_and, hargs]
    refine ⟨fun h => .inr ⟨outer, args, rfl, hne, h⟩, ?_⟩
    rintro (h | ⟨_, _, ⟨rfl, rfl⟩, -, h⟩)
    · cases h
    · exact h
  · rw [hcontainer, eq_comm, replace_eq_iff_nested]
    refine ⟨fun h => ?_, ?_⟩
    · cases h with
      | bare => exact .inl rfl
      | wrap h => exact absurd (hnone _ _ rfl) (by simp)
    · rintro (rfl | ⟨outer, args, heq, hne, -⟩)
      · exact .bare
      · exact absurd (hnone outer args heq) hne

/-! ### Accessors into containers -/

/-- **What an accessor into a container promises and what it does.** A parser with one type
parameter has an accessor for each of its containers and each public constructor that takes a type
token. The accessor promises each argument of the product in the container, or else the product as a
whole. It takes class tokens of the type variable and tells the parser to parse into the container
of what they stand for. This leads to what the accessor promises only if the product is the
variable, or if its arguments are nothing but the variable in such containers. -/
theorem exists_accessor_into_container {config : Config} {aliasName observable : String}
    {decl : TypeDecl} {wrappers : List TypeExpr} {typeParam : TypeParam} {product : TypeExpr}
    {refs : List ClassRef} {container : ClassRef} {ctor : ConstructorDecl}
    (hobservable : config.reactive.observable? = some observable)
    (hproduct : decl.product? = some product) (htypeParams : decl.typeParams = [typeParam])
    (hrefs : containers decl wrappers = .ok refs) (hcontainer : container ∈ refs)
    (hctor : ctor ∈ decl.publicConstructors) (htoken : ∃ param ∈ ctor.params, TakesToken param) :
    ∃ members, accessors config aliasName decl wrappers = .ok (some members) ∧
      ∃ accessor ∈ members,
        accessor.name = "as" ++ aliasName ++ container.simpleName ∧
        (∃ element, accessor.returnType = some (.named observable [element]) ∧
          ((∃ outer args, product = .named outer args ∧ args ≠ [] ∧
              element = .named outer (args.map fun arg => .named container.name [arg])) ∨
            ((∀ outer args, product = .named outer args → args = []) ∧
              element = .named container.name [product])) ∧
          (element =
              replace typeParam.name (.named container.name [typeParam.toVariable]) product ↔
            product = typeParam.toVariable ∨
              ∃ outer args, product = .named outer args ∧ args ≠ [] ∧
                ∀ arg ∈ args, Nested container.name typeParam.name arg)) ∧
        ParsesInto decl ctor container accessor ∧
        ∀ token ∈ tokenNames decl.typeParams ctor.params,
          ({ name := token, type := .ofLibrary .classToken [typeParam.toVariable] } : Parameter) ∈
            accessor.params := by
  obtain ⟨hclear, rfl⟩ := containers_eq_ok_iff.1 hrefs
  have hone : decl.typeParams.length = 1 := by simp [htypeParams]
  have hclash : ¬AccessorsClash decl wrappers := fun h => hclear h.2
  have htokens : (slotsOf decl ctor).any (·.source.isToken) = true :=
    (any_isToken_slots (by simp [htypeParams]) ctor.params).2 htoken
  have hparses := parsesInto_containerAccessor observable ("as" ++ aliasName) decl product ctor
    container
  refine ⟨_, accessors_of_not_clash hobservable hproduct hclash,
    containerAccessor observable ("as" ++ aliasName) decl product ctor container, ?_, rfl,
    ⟨_, rfl, inContainer_cases container product, inContainer_eq_replace_iff⟩, hparses, ?_⟩
  · rw [accessorContainers, if_pos hone]
    refine List.mem_flatMap.2 ⟨ctor, hctor, List.mem_cons_of_mem _ ?_⟩
    rw [if_pos htokens]
    exact List.mem_map.2 ⟨container, hcontainer, rfl⟩
  · intro token htoken
    rw [← flatMap_tokens_slotsOf] at htoken
    obtain ⟨source, hsource, htoken⟩ := List.mem_flatMap.1 htoken
    obtain ⟨slot, hslot, rfl⟩ := List.mem_map.1 hsource
    obtain ⟨other, hother, hparam⟩ := exists_param_of_token (fun _ hmem => hmem) hslot htoken
    obtain rfl : other = typeParam := by simpa [htypeParams] using hother
    exact List.mem_flatMap.2 ⟨slot, hslot, hparam⟩

theorem exists_accessor_into_container_pageParser :
    ∃ members,
      accessors {} "Page" (pageParser [tokenConstructor] (.variable "T")) [] =
          .ok (some members) ∧
        ∃ accessor ∈ members, accessor.name = "asPageList" ∧
          accessor.returnType = some (.named "io.reactivex.rxjava3.core.Observable"
            [.named "java.util.List" [.variable "T"]]) := by
  have hctor : tokenConstructor ∈
      (pageParser [tokenConstructor] (.variable "T")).publicConstructors := by
    rw [publicConstructors_pageParser]
    exact List.mem_singleton_self _
  have htoken : ∃ param ∈ tokenConstructor.params, TakesToken param :=
    ⟨_, List.mem_singleton_self _, .inl (by decide)⟩
  have hrefs : containers (pageParser [tokenConstructor] (.variable "T")) [] =
      .ok [.ofLibrary .list []] := rfl
  have hobservable : ({} : Config).reactive.observable? =
      some "io.reactivex.rxjava3.core.Observable" := rfl
  obtain ⟨members, hmembers, accessor, hmem, hname, ⟨element, htype, -, helement⟩, -, -⟩ :=
    @exists_accessor_into_container _ "Page" _ _ _ _ _ _ _ _ hobservable product?_pageParser rfl
      hrefs (List.mem_singleton_self _) hctor htoken
  refine ⟨members, hmembers, accessor, hmem, hname, ?_⟩
  rw [htype, helement.2 (.inl rfl), replace_variable_self]
  rfl

/-- A product with an argument in which the type parameter does not occur. -/
def mapProduct : TypeExpr :=
  .named "java.util.Map" [.ofLibrary .string [], .variable "T"]

/-- An argument without the type parameter is put into the container as well. -/
theorem returnType_asPageList_mapProduct :
    let parser := pageParser [tokenConstructor] mapProduct
    let observable := "io.reactivex.rxjava3.core.Observable"
    let list (type : TypeExpr) := TypeExpr.ofLibrary .list [type]
    Contract.checkType {} { types := [parser] } .parser parser = .ok () ∧
      parser.product? = some mapProduct ∧ parser.typeParams = [{ name := "T" }] ∧
      containers parser [] = .ok [.ofLibrary .list []] ∧
      tokenConstructor ∈ parser.publicConstructors ∧
      (∃ param ∈ tokenConstructor.params, TakesToken param) ∧
      ∃ members, accessors {} "Page" parser [] = .ok (some members) ∧
        (∃ accessor ∈ members, accessor.name = "asPageList") ∧
        ∀ accessor ∈ members, accessor.name = "asPageList" →
          accessor.returnType = some (.named observable
              [.named "java.util.Map" [list (.ofLibrary .string []), list (.variable "T")]]) ∧
            accessor.returnType ≠
              some (.named observable [replace "T" (list (.variable "T")) mapProduct]) := by
  intro parser observable list
  refine ⟨Contract.checkType_pageParser _ _ (by decide), product?_pageParser, rfl, rfl,
    List.mem_singleton_self _, ⟨_, List.mem_singleton_self _, .inl (by decide)⟩,
    [accessor observable "asPage" parser mapProduct tokenConstructor,
      containerAccessor observable "asPage" parser mapProduct tokenConstructor
        (.ofLibrary .list [])], rfl, ?_, ?_⟩
  · exact ⟨_, List.mem_cons_of_mem _ (List.mem_singleton_self _), rfl⟩
  intro member hmember hname
  rcases List.mem_pair.1 hmember with rfl | rfl
  · exact absurd hname (by decide)
  · exact ⟨rfl, by decide⟩

end Api

end FluentHttp
