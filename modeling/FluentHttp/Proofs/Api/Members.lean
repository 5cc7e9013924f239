import FluentHttp.Proofs.Api.Delegation
import FluentHttp.Proofs.Api.Generation
import FluentHttp.Proofs.Api.PassedOn

/-!
# FluentHttp.Proofs.Api.Members

What the classes of a registry are, and what their members are.

A class is the wrapper of a builder, the entry class or the extensions (`mem_classesOf_iff`). What
members these have is told by one case for each way in which a declaration contributes one
(`WrapperMember`, `EntryMethod`, `ExtensionMethod`). A statement about all generated members is
proved for each of these cases, without going through the synthesis again.
-/

namespace FluentHttp.Api

open Java

/-! ### Wrappers -/

/-- A member of the wrapper of a builder. -/
inductive WrapperMember (config : Config) (decl : TypeDecl) : Java.Member → Prop where
  | construct : WrapperMember config decl (wrapperConstructor decl (wrapperName decl))
  | delegate {method : MethodDecl} (hmethod : method ∈ decl.ownMethods) :
    WrapperMember config decl (wrapperMethod config decl method)

theorem wrapperMember_of_mem {config : Config} {decl : TypeDecl} {member : Java.Member}
    (h : member ∈ (wrapper config decl).members) : WrapperMember config decl member := by
  rw [members_wrapper_eq, List.mem_cons, List.mem_map] at h
  rcases h with heq | ⟨method, hmethod, heq⟩
  · rw [heq]
    exact .construct
  · rw [← heq]
    exact .delegate hmethod

/-- No member of a wrapper is static. -/
theorem WrapperMember.isStatic {config : Config} {decl : TypeDecl} {member : Java.Member}
    (h : WrapperMember config decl member) : member.modifiers.isStatic = false := by
  cases h with
  | construct => rfl
  | @delegate method hmethod =>
      have hown := (List.mem_filter.1 hmethod).2
      have hmodifiers : (wrapperMethod config decl method).modifiers = method.modifiers := by
        unfold wrapperMethod delegatingMethod
        rfl
      simp only [Bool.and_eq_true, Bool.not_eq_true'] at hown
      rw [hmodifiers]
      exact hown.1.2

/-- What the name of the base of a wrapper ends in: the simple name of the library class that the
builder extends, if its wrappers have a base of their own, and else nothing. -/
def baseName (decl : TypeDecl) : String :=
  match decl.superclass.bind TypeExpr.library? with
  | some library =>
    if library ∈ concreteBuilders then simpleName library.qualifiedName
    else if library = .abstractBodyParam then "AbstractBodyParam"
    else ""
  | none => ""

/-- A wrapper extends a base in the generated package. The base is raw, or else it is applied to the
builder and the wrapper. -/
theorem superclass_wrapper (config : Config) (decl : TypeDecl) :
    ∃ args, (wrapper config decl).superclass =
        some (.named (config.qualified (entryName ++ baseName decl)) args) ∧
      ∀ arg ∈ args, arg = decl.selfType ∨ arg = (wrapperHead config decl).selfType := by
  have hgeneric : ∀ arg ∈ [decl.selfType, (wrapperHead config decl).selfType],
      arg = decl.selfType ∨ arg = (wrapperHead config decl).selfType :=
    fun _ => List.mem_pair.1
  unfold wrapper baseOf baseName
  cases decl.superclass.bind TypeExpr.library? with
  | none => exact ⟨_, rfl, hgeneric⟩
  | some library =>
      dsimp only
      split
      · exact ⟨[], rfl, fun _ hmem => absurd hmem List.not_mem_nil⟩
      · split
        · exact ⟨_, rfl, hgeneric⟩
        · exact ⟨_, rfl, hgeneric⟩

/-! ### Parsers -/

/-- The reactive accessors of a parser are those of its public constructors, if there are any. -/
theorem accessorList_cases (config : Config) (aliasName : String) (decl : TypeDecl) :
    accessorList config aliasName decl = [] ∨
      ∃ observable product,
        config.reactive.observable? = some observable ∧ decl.product? = some product ∧
          ¬AccessorsClash decl decl.wrappers ∧
            accessorList config aliasName decl =
              decl.publicConstructors.flatMap
                (accessorsOf observable ("as" ++ aliasName) decl product
                  (accessorContainers decl decl.wrappers)) := by
  cases hobservable : config.reactive.observable? with
  | none =>
      left
      rw [accessorList, accessors_of_disabled hobservable]
  | some observable =>
      cases hproduct : decl.product? with
      | none =>
          left
          rw [accessorList, accessors_of_no_product hproduct]
      | some product =>
          by_cases hclash : AccessorsClash decl decl.wrappers
          · obtain ⟨error, herror⟩ :=
              @accessors_of_clash _ aliasName _ _ _ _ hobservable hproduct hclash
            left
            rw [accessorList, herror]
          · right
            refine ⟨observable, product, rfl, rfl, hclash, ?_⟩
            rw [accessorList, accessors_of_not_clash hobservable hproduct hclash]

/-- The extensions of a parser: one that subclasses a generic parser on the spot, or else one for
each public constructor. -/
theorem extensions_cases (aliasName : String) (decl : TypeDecl) :
    (extensions aliasName decl).getD [] = [] ∨
      ∃ product, decl.product? = some product ∧
        (extensions aliasName decl).getD [] =
          if decl.isGeneric then
            [extension ("to" ++ aliasName) decl product {} (.newSubclass decl.selfType [])]
          else
            decl.publicConstructors.map fun ctor =>
              extension ("to" ++ aliasName) decl product ctor (newParser decl ctor) := by
  unfold extensions
  cases hproduct : decl.product? with
  | none => exact .inl rfl
  | some product => exact .inr ⟨product, rfl, rfl⟩

/-! ### The entry class -/

/-- The entry class of a registry. -/
def entryOf (config : Config) (registry : Registry) : ClassDecl :=
  entryClass config registry (allFactories config registry.params)
    (allAccessors config registry.parsers)

/-- A method of the entry class of a registry. -/
inductive EntryMethod (config : Config) (registry : Registry) : Java.Member → Prop where
  | format : EntryMethod config registry formatMethod
  | factory {aliasName : String} {decl : TypeDecl} {ctor : ConstructorDecl}
    (hentry : (aliasName, decl) ∈ registry.params) (hctor : ctor ∈ decl.publicConstructors) :
    EntryMethod config registry (factory aliasName decl (wrapperHead config decl) ctor)
  | converter {field : FieldDecl} (hfield : field ∈ registry.converters) :
    EntryMethod config registry (converterSetter field)
  | client {field : FieldDecl} (hfield : field ∈ registry.clients) :
    EntryMethod config registry (clientSetter field)
  | domain {field : FieldDecl} (hfield : field ∈ registry.domains) :
    EntryMethod config registry (domainSetter field)
  | defaultDomain {field : FieldDecl} (hfield : registry.defaultDomain = some field) :
    EntryMethod config registry (defaultDomainMethod field)
  | addDomain : EntryMethod config registry addDomainMethod
  | accessor {aliasName observable : String} {decl : TypeDecl} {product : TypeExpr}
    {ctor : ConstructorDecl} (hobservable : config.reactive.observable? = some observable)
    (hentry : (aliasName, decl) ∈ registry.parsers) (hproduct : decl.product? = some product)
    (hctor : ctor ∈ decl.publicConstructors) :
    EntryMethod config registry (accessor observable ("as" ++ aliasName) decl product ctor)
  | containerAccessor {aliasName observable : String} {decl : TypeDecl} {product : TypeExpr}
    {ctor : ConstructorDecl} {container : ClassRef}
    (hobservable : config.reactive.observable? = some observable)
    (hentry : (aliasName, decl) ∈ registry.parsers) (hproduct : decl.product? = some product)
    (hctor : ctor ∈ decl.publicConstructors)
    (hcontainer : container ∈ accessorContainers decl decl.wrappers) :
    EntryMethod config registry
      (containerAccessor observable ("as" ++ aliasName) decl product ctor container)

/-- The methods of the entry class of a registry, in order. -/
def entryMethods (config : Config) (registry : Registry) : List Java.Member :=
  formatMethod :: allFactories config registry.params ++ fieldMembers registry
    ++ allAccessors config registry.parsers

section EntryClass

variable {config : Config} {registry : Registry} {member : Java.Member}

theorem entryMethod_of_mem_factories (h : member ∈ allFactories config registry.params) :
    EntryMethod config registry member := by
  obtain ⟨entry, hentry, hmember⟩ := List.mem_flatMap.1 h
  obtain ⟨ctor, hctor, heq⟩ := List.mem_map.1 hmember
  rw [← heq]
  exact .factory hentry hctor

theorem entryMethod_of_mem_fieldMembers (h : member ∈ fieldMembers registry) :
    EntryMethod config registry member := by
  simp only [fieldMembers, List.mem_append, List.mem_map, Option.mem_toList] at h
  rcases h with (((⟨field, hfield, heq⟩ | ⟨field, hfield, heq⟩) | ⟨field, hfield, heq⟩) |
    ⟨field, hfield, heq⟩) | hadd
  · exact heq ▸ .converter hfield
  · exact heq ▸ .client hfield
  · exact heq ▸ .domain hfield
  · exact heq ▸ .defaultDomain hfield
  · split at hadd
    · rw [List.mem_singleton.1 hadd]
      exact .addDomain
    · cases hadd

theorem entryMethod_of_mem_accessors (h : member ∈ allAccessors config registry.parsers) :
    EntryMethod config registry member := by
  obtain ⟨⟨aliasName, decl⟩, hentry, hmember⟩ := List.mem_flatMap.1 h
  dsimp only at hmember
  rcases accessorList_cases config aliasName decl with
    hnil | ⟨observable, product, hobservable, hproduct, -, hlist⟩
  · rw [hnil] at hmember
    cases hmember
  · rw [hlist] at hmember
    obtain ⟨ctor, hctor, hmember⟩ := List.mem_flatMap.1 hmember
    rcases List.mem_cons.1 hmember with heq | hmember
    · rw [heq]
      exact .accessor hobservable hentry hproduct hctor
    · split at hmember
      · obtain ⟨container, hcontainer, heq⟩ := List.mem_map.1 hmember
        rw [← heq]
        exact .containerAccessor hobservable hentry hproduct hctor hcontainer
      · cases hmember

theorem entryMethod_of_mem (h : member ∈ entryMethods config registry) :
    EntryMethod config registry member := by
  rw [entryMethods, List.mem_append, List.mem_append, List.mem_cons] at h
  rcases h with ((heq | hfactory) | hfield) | haccessor
  · exact heq ▸ .format
  · exact entryMethod_of_mem_factories hfactory
  · exact entryMethod_of_mem_fieldMembers hfield
  · exact entryMethod_of_mem_accessors haccessor

theorem members_entryOf (config : Config) (registry : Registry) :
    (entryOf config registry).members = entryConstructor :: entryMethods config registry :=
  rfl

theorem methods_entryOf (config : Config) (registry : Registry) :
    (entryOf config registry).methods = entryMethods config registry := by
  rw [ClassDecl.methods, members_entryOf, List.filter_cons_of_neg Bool.false_ne_true]
  refine List.filter_eq_self.2 fun member hmember => ?_
  cases entryMethod_of_mem hmember <;> rfl

end EntryClass

/-! ### The extensions -/

/-- The extensions of a registry. -/
def extensionsOf (config : Config) (registry : Registry) : ClassDecl :=
  extensionsClass config (allExtensions registry.parsers)

/-- The constructor of the extensions. -/
def extensionsConstructor : Java.Member :=
  { name := extensionsName, modifiers := { isPrivate := true }, returnType := none }

/-- A method of the extensions of a registry. -/
inductive ExtensionMethod (registry : Registry) : Java.Member → Prop where
  | subclassing {aliasName : String} {decl : TypeDecl} {product : TypeExpr}
    (hentry : (aliasName, decl) ∈ registry.parsers) (hproduct : decl.product? = some product) :
    ExtensionMethod registry
      (extension ("to" ++ aliasName) decl product {} (.newSubclass decl.selfType []))
  | plain {aliasName : String} {decl : TypeDecl} {product : TypeExpr} {ctor : ConstructorDecl}
    (hentry : (aliasName, decl) ∈ registry.parsers) (hproduct : decl.product? = some product)
    (hctor : ctor ∈ decl.publicConstructors) :
    ExtensionMethod registry
      (extension ("to" ++ aliasName) decl product ctor (newParser decl ctor))

section Extensions

variable {config : Config} {registry : Registry} {member : Java.Member}

theorem extensionMethod_of_mem (h : member ∈ allExtensions registry.parsers) :
    ExtensionMethod registry member := by
  obtain ⟨⟨aliasName, decl⟩, hentry, hmember⟩ := List.mem_flatMap.1 h
  dsimp only at hmember
  rcases extensions_cases aliasName decl with hnil | ⟨product, hproduct, hlist⟩
  · rw [hnil] at hmember
    cases hmember
  · rw [hlist] at hmember
    split at hmember
    · rw [List.mem_singleton.1 hmember]
      exact .subclassing hentry hproduct
    · obtain ⟨ctor, hctor, heq⟩ := List.mem_map.1 hmember
      rw [← heq]
      exact .plain hentry hproduct hctor

theorem members_extensionsOf (config : Config) (registry : Registry) :
    (extensionsOf config registry).members =
      extensionsConstructor :: allExtensions registry.parsers :=
  rfl

theorem methods_extensionsOf (config : Config) (registry : Registry) :
    (extensionsOf config registry).methods = allExtensions registry.parsers := by
  rw [ClassDecl.methods, members_extensionsOf, List.filter_cons_of_neg Bool.false_ne_true]
  refine List.filter_eq_self.2 fun member hmember => ?_
  cases extensionMethod_of_mem hmember <;> rfl

end Extensions

/-! ### All classes -/

/-- The classes of a registry are the wrappers of its builders, the entry class and the extensions.
-/
theorem mem_classesOf_iff {config : Config} {registry : Registry} {generated : ClassDecl} :
    generated ∈ classesOf config registry ↔
      (∃ entry ∈ registry.params, generated = wrapper config entry.2) ∨
        generated = entryOf config registry ∨ generated = extensionsOf config registry := by
  have hclasses : classesOf config registry =
      wrapperClasses config registry.params ++
        [entryOf config registry, extensionsOf config registry] := rfl
  rw [hclasses, List.mem_append, List.mem_pair, wrapperClasses, List.mem_map]
  simp only [eq_comm]

end FluentHttp.Api
