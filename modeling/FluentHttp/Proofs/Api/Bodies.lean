import FluentHttp.Proofs.Api.DeclaredNames
import FluentHttp.Proofs.Api.Members
import FluentHttp.Proofs.Java.Vocabulary

/-!
# FluentHttp.Proofs.Api.Bodies

What the bodies of generated members mention.

For each class there is one statement about all of its members: their bodies are within every
vocabulary that has the parameters of the member, the types that the class is made with, and, in
instance members, what an instance has (`WrapperMember.bodyWithin`, `EntryMethod.bodyWithin`,
`ExtensionMethod.bodyWithin`).
-/

namespace FluentHttp.Api

open Java

variable {words : Vocabulary}

/-! ### Arguments -/

/-- The arguments of a factory are names of its parameters, and one of them may be formatted. -/
theorem allWithin_factoryArgs {ctor : ConstructorDecl}
    (hparams : ∀ param ∈ factoryParams ctor, words.names param.name)
    (hformat : words.calls formatMethod.name) : Expr.AllWithin words (factoryArgs ctor) := by
  have hown : ∀ param ∈ ctor.params, words.names param.name := by
    intro param hparam
    apply hparams
    unfold factoryParams
    split
    · exact List.mem_append_left _ hparam
    · exact hparam
  unfold factoryArgs
  cases hctor : ctor.params with
  | nil => trivial
  | cons first rest =>
      rw [hctor] at hown
      have hfirst := hown first List.mem_cons_self
      refine ⟨?_, Expr.allWithin_variables_iff.2 fun param hparam =>
        hown param (List.mem_cons_of_mem _ hparam)⟩
      by_cases hurl : takesUrl ctor = true
      · have hargs : formatArgs ∈ factoryParams ctor := by
          rw [factoryParams, if_pos hurl]
          exact List.mem_append_right _ (List.mem_singleton_self _)
        rw [if_pos hurl]
        exact ⟨hformat, hfirst, hparams _ hargs, trivial⟩
      · rw [if_neg hurl]
        exact hfirst

/-- The argument for a parameter is its name, what there is for a class token, or an array of what
there is for the class tokens. -/
theorem Role.within_passed {typeParams : List TypeParam} {param : Parameter} {token : String → Expr}
    (role : Role) (hparams : ∀ taken ∈ role.taken typeParams param, words.names taken.name)
    (htokens : ∀ name ∈ role.tokens typeParams param, (token name).Within words)
    (htype : words.types (.ofLibrary .reflectType [])) :
    (role.passed typeParams param token).Within words := by
  cases role with
  | tokenArray =>
      refine ⟨htype, Expr.allWithin_iff.2 ?_⟩
      rw [List.forall_mem_map]
      intro typeParam hmem
      exact htokens _ (List.mem_map_of_mem hmem)
  | token typeParam => exact htokens _ (List.mem_singleton_self _)
  | plain => exact hparams param (List.mem_singleton_self _)

theorem allWithin_passedArgs {typeParams : List TypeParam} {params : List Parameter}
    {token : String → Expr} (hparams : ∀ taken ∈ takenParams typeParams params,
      words.names taken.name)
    (htokens : ∀ name ∈ tokenNames typeParams params, (token name).Within words)
    (htype : words.types (.ofLibrary .reflectType [])) :
    Expr.AllWithin words (passedArgs typeParams token params) := by
  rw [Expr.allWithin_iff, passedArgs, List.forall_mem_map]
  intro entry hentry
  refine entry.2.within_passed ?_ ?_ htype
  · exact fun taken htaken => hparams taken (List.mem_flatMap.2 ⟨entry, hentry, htaken⟩)
  · exact fun name hname => htokens name (List.mem_flatMap.2 ⟨entry, hentry, hname⟩)

/-! ### Wrappers -/

theorem bodyWithin_wrapperMethod {config : Config} {decl : TypeDecl} {method : MethodDecl}
    (hparams : ∀ param ∈ method.params, words.names param.name) (hfield : words.names paramField)
    (hself : words.types decl.selfType) :
    BodyWithin words (wrapperMethod config decl method).body := by
  unfold wrapperMethod
  generalize (wrapperHead config decl).selfType = wrapper
  have hdelegate : (baseOf config decl wrapper).delegate.Within words := by
    rcases delegate_baseOf_cases config decl wrapper with heq | heq
    · rw [heq]
      exact hfield
    · rw [heq]
      exact ⟨hself, hfield⟩
  have hcall : (passingCall (baseOf config decl wrapper).delegate method).Within words :=
    ⟨hdelegate, Expr.allWithin_variables_iff.2 hparams⟩
  rcases delegatingMethod_cases decl wrapper (baseOf config decl wrapper).delegate method with
    ⟨-, -, hbody⟩ | ⟨-, -, hbody⟩ | ⟨-, -, hbody⟩
  · rw [hbody]
    exact ⟨hcall, trivial, trivial⟩
  · rw [hbody]
    exact ⟨hcall, trivial⟩
  · rw [hbody]
    exact ⟨hcall, trivial⟩

/-- A member of a wrapper reads its parameters and the field that holds the builder, and casts the
builder at most. It calls nothing without a target. -/
theorem WrapperMember.bodyWithin {config : Config} {decl : TypeDecl} {member : Java.Member}
    (h : WrapperMember config decl member)
    (hparams : ∀ param ∈ member.params, words.names param.name) (hfield : words.names paramField)
    (hself : words.types decl.selfType) : BodyWithin words member.body := by
  cases h with
  | construct => exact ⟨⟨hfield, trivial⟩, trivial⟩
  | delegate _ => exact bodyWithin_wrapperMethod hparams hfield hself

/-! ### Accessors -/

/-- The locals of an accessor that parses into a container. -/
theorem bodyWithin_containerTokens {container : ClassRef} {tokens : List String}
    (htokens : ∀ token ∈ tokens, words.names token) (hraw : ∀ name, words.types (.named name []))
    (hcontainer : container.args = []) :
    BodyWithin words (tokens.map (containerToken container)) := by
  induction tokens generalizing words with
  | nil => trivial
  | cons token rest ih =>
      obtain ⟨htoken, hrest⟩ := List.forall_mem_cons.1 htokens
      have hliteral : words.types container.toType := by
        rw [ClassRef.toType, hcontainer]
        exact hraw _
      refine ⟨⟨hraw _, hraw _, hliteral, htoken, trivial⟩, ih ?_ hraw⟩
      exact fun other hother => .inl (hrest other hother)

/-- Class tokens are parameters of the accessor. -/
theorem Parses.names_of_mem_tokenNames {decl : TypeDecl} {ctor : ConstructorDecl}
    {locals : List Stmt} {token : String → Expr} {member : Java.Member}
    (h : Parses decl ctor locals token member)
    (hparams : ∀ param ∈ member.params, words.names param.name) {name : String}
    (hname : name ∈ tokenNames decl.typeParams ctor.params) : words.names name := by
  rw [h.params] at hparams
  obtain ⟨taken, htaken, heq⟩ := List.mem_map.1 ((tokenNames_sublist _ _).subset hname)
  exact heq ▸ hparams taken htaken

theorem Parses.bodyWithin {decl : TypeDecl} {ctor : ConstructorDecl} {locals : List Stmt}
    {token : String → Expr} {member : Java.Member} (h : Parses decl ctor locals token member)
    (hlocals : BodyWithin words locals) (hparams : ∀ param ∈ member.params, words.names param.name)
    (htokens : ∀ name ∈ tokenNames decl.typeParams ctor.params,
      (token name).Within (words.addNames (locals.flatMap Stmt.declares)))
    (hcall : words.calls "asParser") (hraw : ∀ name, words.types (.named name [])) :
    BodyWithin words member.body := by
  rw [h.params] at hparams
  rw [h.body, bodyWithin_append, bodyWithin_result_iff]
  refine ⟨hlocals, hcall, ⟨hraw _, ?_⟩, trivial⟩
  exact allWithin_passedArgs (fun taken htaken => .inl (hparams taken htaken)) htokens (hraw _)

/-- The containers of a parser are raw. -/
theorem args_eq_nil_of_mem_accessorContainers {decl : TypeDecl} {wrappers : List TypeExpr}
    {container : ClassRef} (h : container ∈ accessorContainers decl wrappers) :
    container.args = [] := by
  unfold accessorContainers at h
  split at h
  · obtain ⟨name, -, heq⟩ := List.mem_map.1 h
    rw [← heq]
    rfl
  · cases h

/-! ### The entry class -/

theorem hasDomains_of_mem {registry : Registry} {field : FieldDecl}
    (h : field ∈ registry.domains) : registry.hasDomains = true := by
  have hne : registry.domains ≠ [] := List.ne_nil_of_mem h
  simp [Registry.hasDomains, hne]

theorem hasDomains_of_defaultDomain {registry : Registry} {field : FieldDecl}
    (h : registry.defaultDomain = some field) : registry.hasDomains = true := by
  simp [Registry.hasDomains, h]

/-! #### Setters -/

theorem within_nullGuard (field : FieldDecl) (what : String)
    (hraw : ∀ name, words.types (.named name [])) : (nullGuard field what).Within words :=
  ⟨⟨hraw _, trivial⟩, ⟨hraw _, trivial, trivial⟩, trivial⟩

theorem bodyWithin_setter {name : String} {body : List Stmt} (hbody : BodyWithin words body)
    (htype : words.types selfVariable) : BodyWithin words (setter name body).body :=
  bodyWithin_append.2 ⟨hbody, bodyWithin_result_iff.2 ⟨htype, trivial⟩⟩

theorem bodyWithin_mergeDomain (field : FieldDecl) (hraw : ∀ name, words.types (.named name []))
    (hfield : words.names paramField) (hcall : words.calls addDomainMethod.name) :
    BodyWithin words (mergeDomain field) := by
  have hlocal : (words.addNames ["newUrl"]).names "newUrl" := .inr (List.mem_singleton_self _)
  refine ⟨⟨hraw _, hcall, ⟨hfield, trivial⟩, hraw _, trivial⟩, ?_, trivial⟩
  exact ⟨.inl hfield, hlocal, trivial⟩

theorem bodyWithin_defaultDomainMethod (field : FieldDecl)
    (hraw : ∀ name, words.types (.named name [])) (hfield : words.names paramField)
    (hcall : words.calls addDomainMethod.name) :
    BodyWithin words (defaultDomainMethod field).body :=
  bodyWithin_append.2
    ⟨bodyWithin_mergeDomain field hraw hfield hcall, bodyWithin_result_iff.2 (.inl hfield)⟩

/-! #### Members -/

theorem bodyWithin_entryConstructor (h : words.names paramField) :
    BodyWithin words entryConstructor.body :=
  ⟨⟨trivial, h⟩, trivial⟩

/-- A method of the entry class reads its parameters and calls helpers of the class. Only instance
methods read the field that holds the builder, call what is inherited, and mention a type variable.
-/
theorem EntryMethod.bodyWithin {config : Config} {registry : Registry} {member : Java.Member}
    (h : EntryMethod config registry member)
    (hparams : ∀ param ∈ member.params, words.names param.name)
    (hraw : ∀ name, words.types (.named name [])) (hformat : words.calls formatMethod.name)
    (hdomain : registry.hasDomains = true → words.calls addDomainMethod.name)
    (hself : member.modifiers.isStatic = false →
      words.names paramField ∧ words.calls "asParser" ∧ words.types selfVariable) :
    BodyWithin words member.body := by
  cases h with
  | format =>
      have hurl : words.names "url" := hparams _ List.mem_cons_self
      have hargs : words.names formatArgs.name := hparams formatArgs (by simp [formatMethod])
      simp [formatMethod, BodyWithin, Stmt.Within, Expr.Within, Expr.AllWithin, Stmt.declares,
        hurl, hargs]
      exact hraw _
  | factory _ _ =>
      refine ⟨⟨hraw _, ⟨hraw _, ?_⟩, trivial⟩, trivial⟩
      exact allWithin_factoryArgs hparams hformat
  | @converter field _ =>
      obtain ⟨hfield, -, htype⟩ := hself rfl
      refine bodyWithin_setter ⟨within_nullGuard field _ hraw, ?_, trivial⟩ htype
      exact ⟨.inl hfield, hraw _, hraw _, trivial⟩
  | @client field _ =>
      obtain ⟨-, -, htype⟩ := hself rfl
      exact bodyWithin_setter
        ⟨within_nullGuard field _ hraw, ⟨trivial, hraw _⟩, trivial⟩ htype
  | domain hmem =>
      obtain ⟨hfield, -, htype⟩ := hself rfl
      exact bodyWithin_setter
        (bodyWithin_mergeDomain _ hraw hfield (hdomain (hasDomains_of_mem hmem))) htype
  | defaultDomain hdefault =>
      obtain ⟨hfield, -⟩ := hself rfl
      exact bodyWithin_defaultDomainMethod _ hraw hfield
        (hdomain (hasDomains_of_defaultDomain hdefault))
  | addDomain =>
      have hurl : words.names "url" := hparams _ List.mem_cons_self
      have hbase : words.names "domain" := hparams _ (List.mem_cons_of_mem _ List.mem_cons_self)
      exact ⟨⟨⟨hurl, trivial, trivial⟩, hurl, trivial⟩,
        ⟨hraw _, .inl hbase, .inl hurl, trivial⟩, trivial⟩
  | @accessor aliasName observable decl product ctor _ _ _ _ =>
      obtain ⟨-, hcall, -⟩ := hself rfl
      have hparses := parses_accessor observable ("as" ++ aliasName) decl product ctor
      exact hparses.bodyWithin trivial hparams
        (fun token htoken => .inl (hparses.names_of_mem_tokenNames hparams htoken)) hcall hraw
  | @containerAccessor aliasName observable decl product ctor container _ _ _ _ hcontainer =>
      obtain ⟨-, hcall, -⟩ := hself rfl
      have hparses :=
        parses_containerAccessor observable ("as" ++ aliasName) decl product ctor container
      refine hparses.bodyWithin ?_ hparams ?_ hcall hraw
      · exact bodyWithin_containerTokens
          (fun token htoken => hparses.names_of_mem_tokenNames hparams htoken) hraw
          (args_eq_nil_of_mem_accessorContainers hcontainer)
      · intro token htoken
        exact .inr (List.mem_flatMap.2
          ⟨_, List.mem_map_of_mem htoken, List.mem_singleton_self _⟩)

/-! ### The extensions -/

/-- A method of the extensions reads its parameters only. It makes a parser, or an object of a
subclass of one. -/
theorem ExtensionMethod.bodyWithin {registry : Registry} {member : Java.Member}
    (h : ExtensionMethod registry member)
    (hparams : ∀ param ∈ member.params, words.names param.name)
    (hraw : ∀ name, words.types (.named name []))
    (hself : ∀ decl : TypeDecl,
      member.typeParams = decl.typeParams → words.types decl.selfType) :
    BodyWithin words member.body := by
  cases h with
  | subclassing _ _ =>
      have hrequest : words.names receiver.name := hparams _ List.mem_cons_self
      exact ⟨⟨hraw _, hrequest, ⟨hself _ rfl, trivial⟩, ⟨hrequest, trivial⟩, trivial⟩, trivial⟩
  | plain _ _ _ =>
      obtain ⟨hrequest, hown⟩ := List.forall_mem_cons.1 hparams
      have hargs := Expr.allWithin_variables_iff.2 hown
      exact ⟨⟨hraw _, hrequest, ⟨hraw _, hargs⟩, ⟨hrequest, trivial⟩, trivial⟩, trivial⟩

end FluentHttp.Api
