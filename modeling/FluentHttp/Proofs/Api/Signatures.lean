import FluentHttp.Proofs.Api.Members
import FluentHttp.Proofs.Api.Overloads

/-!
# FluentHttp.Proofs.Api.Signatures

The signatures of the methods of the entry class and of the extensions, read off the declarations
that contribute them.

A factory is named by the alias of its builder, an extension by the alias of its parser, and both
are told apart by the types that their constructors take. Setters take nothing, so their names alone
tell them apart. Names of setters and names of accessors start differently, so these never meet.
-/

namespace FluentHttp.Api

open Java

/-! ### Keys -/

/-- Signatures with different keys for different entries are different if those of each entry are.
-/
theorem nodup_flatMap_keyed {table : AliasTable} {key : String → String}
    {types : TypeDecl → List (List TypeExpr)} (hkey : Function.Injective key)
    (haliases : (table.map (·.1)).Nodup) (htypes : ∀ entry ∈ table, (types entry.2).Nodup) :
    (table.flatMap fun entry => (types entry.2).map (key entry.1, ·)).Nodup := by
  rw [List.nodup_flatMap]
  constructor
  · intro entry hentry
    exact (htypes entry hentry).map (Prod.mk_right_injective _)
  · rw [List.nodup_iff_pairwise_ne, List.pairwise_map] at haliases
    refine haliases.imp ?_
    intro entry other hne sig hsig hother
    obtain ⟨_, -, rfl⟩ := List.mem_map.1 hsig
    obtain ⟨_, -, heq⟩ := List.mem_map.1 hother
    exact hne (hkey (Prod.mk.inj heq).1).symm

/-- The types that the public constructors of a declaration take. -/
def constructorTypes (decl : TypeDecl) : List (List TypeExpr) :=
  decl.publicConstructors.map fun ctor => ctor.params.map (·.type)

/-! ### Factories -/

/-- The types that a factory takes for those of a constructor: arguments for formatting come last if
a string comes first. -/
def formattedTypes (types : List TypeExpr) : List TypeExpr :=
  if types.head?.any (·.isLibrary .string) then types ++ [formatArgs.type] else types

theorem map_type_factoryParams (ctor : ConstructorDecl) :
    (factoryParams ctor).map (·.type) = formattedTypes (ctor.params.map (·.type)) := by
  have hurl : (ctor.params.map (·.type)).head?.any (·.isLibrary .string) = takesUrl ctor := by
    rw [takesUrl, List.head?_map, Option.any_map]
  rw [factoryParams, formattedTypes, hurl]
  split
  · rw [List.map_append, List.map_singleton]
  · rfl

/-- The first type tells whether there are arguments for formatting. -/
theorem formattedTypes_injective : Function.Injective formattedTypes := by
  have hhead : ∀ types : List TypeExpr, types.head?.any (·.isLibrary .string) = true →
      (types ++ [formatArgs.type]).head?.any (·.isLibrary .string) = true := by
    intro types htypes
    cases types with
    | nil => cases htypes
    | cons first rest => exact htypes
  intro types others h
  unfold formattedTypes at h
  split at h
  · next htypes =>
      split at h
      · exact List.append_cancel_right h
      · next hothers => exact absurd (h ▸ hhead types htypes) hothers
  · next htypes =>
      split at h
      · next hothers => exact absurd (h ▸ hhead others hothers) htypes
      · exact h

/-- A builder has an alias and a public constructor for given types. -/
def HasFactory (builders : AliasTable) (name : String) (types : List TypeExpr) : Prop :=
  ∃ decl, (name, decl) ∈ builders ∧ types ∈ constructorTypes decl

/-- The signatures of the factories of builders, in order. -/
def factorySignatures (builders : AliasTable) : List (String × List TypeExpr) :=
  builders.flatMap fun entry =>
    ((constructorTypes entry.2).map formattedTypes).map (entry.1, ·)

theorem map_signature_allFactories (config : Config) (builders : AliasTable) :
    (allFactories config builders).map signature = factorySignatures builders := by
  rw [allFactories, List.map_flatMap]
  refine List.flatMap_congr fun entry _ => ?_
  obtain ⟨aliasName, decl⟩ := entry
  dsimp only
  rw [factories, constructorTypes, List.map_map, List.map_map, List.map_map]
  refine List.map_congr_left fun ctor _ => ?_
  exact congrArg (Prod.mk aliasName) (map_type_factoryParams ctor)

theorem exists_of_mem_factorySignatures {builders : AliasTable} {sig : String × List TypeExpr}
    (h : sig ∈ factorySignatures builders) :
    ∃ name types, sig = (name, formattedTypes types) ∧ HasFactory builders name types := by
  obtain ⟨⟨aliasName, decl⟩, hentry, hmem⟩ := List.mem_flatMap.1 h
  obtain ⟨formatted, hformatted, rfl⟩ := List.mem_map.1 hmem
  obtain ⟨types, htypes, rfl⟩ := List.mem_map.1 hformatted
  exact ⟨aliasName, types, rfl, decl, hentry, htypes⟩

theorem mem_factorySignatures_iff {builders : AliasTable} {name : String}
    {types : List TypeExpr} :
    (name, formattedTypes types) ∈ factorySignatures builders ↔ HasFactory builders name types := by
  constructor
  · intro h
    obtain ⟨_, _, heq, hfactory⟩ := exists_of_mem_factorySignatures h
    obtain ⟨rfl, hformatted⟩ := Prod.mk.inj heq
    obtain rfl := formattedTypes_injective hformatted
    exact hfactory
  · intro h
    obtain ⟨decl, hentry, htypes⟩ := h
    exact List.mem_flatMap.2
      ⟨(name, decl), hentry, List.mem_map_of_mem (List.mem_map_of_mem htypes)⟩

/-- Factories of different builders differ in their names, and those of one in the types. -/
theorem nodup_factorySignatures {builders : AliasTable} (haliases : (builders.map (·.1)).Nodup)
    (htypes : ∀ entry ∈ builders, (constructorTypes entry.2).Nodup) :
    (factorySignatures builders).Nodup := by
  refine @nodup_flatMap_keyed builders id (fun decl => (constructorTypes decl).map formattedTypes)
    Function.injective_id haliases ?_
  intro entry hentry
  exact (htypes entry hentry).map formattedTypes_injective

/-! ### Extensions -/

/-- The types that the extensions of a parser take. -/
def extensionTypes (decl : TypeDecl) : List (List TypeExpr) :=
  if decl.product?.isNone then []
  else if decl.isGeneric then [[receiver.type]]
  else (constructorTypes decl).map (receiver.type :: ·)

theorem map_signature_allExtensions (parsers : AliasTable) :
    (allExtensions parsers).map signature =
      parsers.flatMap fun entry => (extensionTypes entry.2).map ("to" ++ entry.1, ·) := by
  rw [allExtensions, List.map_flatMap]
  refine List.flatMap_congr fun entry _ => ?_
  obtain ⟨aliasName, decl⟩ := entry
  dsimp only
  unfold extensionTypes extensions
  cases decl.product? with
  | none => rfl
  | some product =>
      dsimp only [Option.map_some, Option.getD_some, Option.isNone_some]
      rw [if_neg Bool.false_ne_true]
      split
      · rfl
      · rw [constructorTypes, List.map_map, List.map_map, List.map_map]
        rfl

/-- Extensions are told apart by the aliases and by what the constructors take. -/
theorem nodup_map_signature_allExtensions {parsers : AliasTable}
    (haliases : (parsers.map (·.1)).Nodup)
    (htypes : ∀ entry ∈ parsers, (constructorTypes entry.2).Nodup) :
    ((allExtensions parsers).map signature).Nodup := by
  rw [map_signature_allExtensions]
  refine nodup_flatMap_keyed (fun _ _ => (String.append_right_inj "to").1) haliases ?_
  intro entry hentry
  unfold extensionTypes
  split
  · exact List.nodup_nil
  · split
    · exact List.nodup_singleton _
    · exact (htypes entry hentry).map List.cons_injective

/-! ### Fields -/

/-- The names of the setters of a registry, in order. -/
def setterNames (registry : Registry) : List String :=
  registry.converters.map converterSetterName
    ++ registry.clients.map (fun field => "set" ++ setterAlias field)
    ++ registry.domains.map (fun field => "setDomainTo" ++ setterAlias field ++ "IfAbsent")

/-- The signature of the method that applies the default base URL. -/
def defaultDomainSignature : String × List TypeExpr :=
  ("addDefaultDomainIfAbsent", [.variable "P"])

/-- The signature of the method that puts a base URL in front of a URL. -/
def addDomainSignature : String × List TypeExpr :=
  (addDomainName, [stringType, stringType])

/-- The signatures of the members that the fields of a registry contribute. -/
def fieldSignatures (registry : Registry) : List (String × List TypeExpr) :=
  (setterNames registry).map (·, [])
    ++ registry.defaultDomain.toList.map (fun _ => defaultDomainSignature)
    ++ if registry.hasDomains then [addDomainSignature] else []

theorem map_signature_fieldMembers (registry : Registry) :
    (fieldMembers registry).map signature = fieldSignatures registry := by
  have hdomain : (if registry.hasDomains then [addDomainMethod] else []).map signature =
      if registry.hasDomains then [addDomainSignature] else [] := by
    split <;> rfl
  unfold fieldMembers fieldSignatures setterNames
  simp only [List.map_append, List.map_map, hdomain]
  rfl

theorem mem_fieldSignatures_iff {registry : Registry} {sig : String × List TypeExpr} :
    sig ∈ fieldSignatures registry ↔
      (sig.1 ∈ setterNames registry ∧ sig.2 = []) ∨
        (registry.defaultDomain.isSome = true ∧ sig = defaultDomainSignature) ∨
          (registry.hasDomains = true ∧ sig = addDomainSignature) := by
  have hsetter : sig ∈ (setterNames registry).map (·, ([] : List TypeExpr)) ↔
      sig.1 ∈ setterNames registry ∧ sig.2 = [] := by
    obtain ⟨name, types⟩ := sig
    simp [eq_comm]
  have hdefault : sig ∈ registry.defaultDomain.toList.map (fun _ => defaultDomainSignature) ↔
      registry.defaultDomain.isSome = true ∧ sig = defaultDomainSignature := by
    cases registry.defaultDomain <;> simp
  have hdomain : sig ∈ (if registry.hasDomains then [addDomainSignature] else []) ↔
      registry.hasDomains = true ∧ sig = addDomainSignature := by
    split <;> simp [*]
  rw [fieldSignatures, List.mem_append, List.mem_append, hsetter, hdefault, hdomain, or_assoc]

/-- The name of every setter starts in one way, also that of a converter, which may end in
another. -/
theorem exists_eq_of_mem_setterNames {registry : Registry} {name : String}
    (h : name ∈ setterNames registry) : ∃ rest, name = "set" ++ rest := by
  simp only [setterNames, List.mem_append, List.mem_map] at h
  rcases h with (⟨field, -, rfl⟩ | ⟨field, -, rfl⟩) | ⟨field, -, rfl⟩
  · unfold converterSetterName
    dsimp only
    split
    · exact ⟨_, rfl⟩
    · exact ⟨setterAlias field ++ "Converter", String.append_assoc ..⟩
  · exact ⟨_, rfl⟩
  · exact ⟨"DomainTo" ++ setterAlias field ++ "IfAbsent", by simp [← String.append_assoc]⟩

theorem ne_of_mem_setterNames {registry : Registry} {name : String}
    (h : name ∈ setterNames registry) :
    name ≠ defaultDomainSignature.1 ∧ name ≠ addDomainSignature.1 := by
  obtain ⟨rest, rfl⟩ := exists_eq_of_mem_setterNames h
  constructor
  · intro heq
    have hchars := congrArg String.toList heq
    simp [defaultDomainSignature] at hchars
  · intro heq
    have hchars := congrArg String.toList heq
    simp [addDomainSignature, addDomainName] at hchars

/-- Nothing that the fields contribute is named like the method that formats URLs or like an
accessor. -/
theorem fst_ne_of_mem_fieldSignatures {registry : Registry} {sig : String × List TypeExpr}
    (h : sig ∈ fieldSignatures registry) :
    sig.1 ≠ formatMethod.name ∧ ∀ rest, sig.1 ≠ "as" ++ rest := by
  have hname : (∃ rest, sig.1 = "set" ++ rest) ∨ ∃ rest, sig.1 = "add" ++ rest := by
    rcases mem_fieldSignatures_iff.1 h with ⟨hsetter, -⟩ | ⟨-, heq⟩ | ⟨-, heq⟩
    · exact .inl (exists_eq_of_mem_setterNames hsetter)
    · exact .inr ⟨"DefaultDomainIfAbsent", by simp [heq, defaultDomainSignature]⟩
    · exact .inr ⟨"DomainIfAbsent", by simp [heq, addDomainSignature, addDomainName]⟩
  constructor
  · intro heq
    rcases hname with ⟨rest, hrest⟩ | ⟨rest, hrest⟩
    · have hchars := congrArg String.toList (hrest.symm.trans heq)
      simp [formatMethod] at hchars
    · have hchars := congrArg String.toList (hrest.symm.trans heq)
      simp [formatMethod] at hchars
  · intro other heq
    rcases hname with ⟨rest, hrest⟩ | ⟨rest, hrest⟩
    · have hchars := congrArg String.toList (hrest.symm.trans heq)
      simp at hchars
    · have hchars := congrArg String.toList (hrest.symm.trans heq)
      simp at hchars

/-- What the fields contribute has different signatures exactly if the setters have different names.
-/
theorem nodup_fieldSignatures_iff {registry : Registry} :
    (fieldSignatures registry).Nodup ↔ (setterNames registry).Nodup := by
  have hsetters : ((setterNames registry).map (·, ([] : List TypeExpr))).Nodup ↔
      (setterNames registry).Nodup :=
    List.nodup_map_iff (Prod.mk_left_injective _)
  have hfixed : (registry.defaultDomain.toList.map (fun _ => defaultDomainSignature) ++
      if registry.hasDomains then [addDomainSignature] else []).Nodup := by
    cases registry.defaultDomain <;> split <;>
      simp [defaultDomainSignature, addDomainSignature, addDomainName]
  rw [fieldSignatures, List.append_assoc, List.nodup_append, hsetters, and_iff_left_iff_imp]
  intro _
  refine ⟨hfixed, ?_⟩
  intro sig hsig other hother heq
  obtain ⟨name, hname, rfl⟩ := List.mem_map.1 hsig
  obtain ⟨hdefault, hdomain⟩ := ne_of_mem_setterNames hname
  rw [← heq] at hother
  rcases List.mem_append.1 hother with hmem | hmem
  · obtain ⟨_, -, hsame⟩ := List.mem_map.1 hmem
    exact hdefault (congrArg Prod.fst hsame).symm
  · split at hmem
    · exact hdomain (congrArg Prod.fst (List.mem_singleton.1 hmem))
    · cases hmem

/-! ### Accessors -/

/-- The signatures of the accessors of a parser: there are any in reactive mode, if it parses
something. -/
def accessorSignatures (config : Config) (aliasName : String) (decl : TypeDecl) :
    List (String × List TypeExpr) :=
  if config.reactive.isEnabled && decl.product?.isSome then
    decl.publicConstructors.flatMap fun ctor =>
      (accessorNames ("as" ++ aliasName) decl (accessorContainers decl decl.wrappers) ctor).map
        (·, accessorTypes decl ctor)
  else []

theorem map_signature_accessorList {config : Config} {aliasName : String} {decl : TypeDecl}
    (h : config.reactive.isEnabled = true → decl.product?.isSome = true →
      ¬AccessorsClash decl decl.wrappers) :
    (accessorList config aliasName decl).map signature =
      accessorSignatures config aliasName decl := by
  rw [← observable?_isSome] at h
  unfold accessorList accessorSignatures
  rw [← observable?_isSome]
  cases hobservable : config.reactive.observable? with
  | none =>
      rw [accessors_of_disabled hobservable]
      rfl
  | some observable =>
      cases hproduct : decl.product? with
      | none =>
          rw [accessors_of_no_product hproduct]
          rfl
      | some product =>
          rw [hobservable, hproduct] at h
          rw [accessors_of_not_clash hobservable hproduct (h rfl rfl)]
          simp only [Option.isSome_some, Bool.and_self, if_true, List.map_flatMap]
          exact List.flatMap_congr fun ctor _ => map_signature_accessorsOf ..

theorem map_signature_allAccessors {config : Config} {parsers : AliasTable}
    (h : ¬ParsersClash config parsers) :
    (allAccessors config parsers).map signature =
      parsers.flatMap fun entry => accessorSignatures config entry.1 entry.2 := by
  rw [allAccessors, List.map_flatMap]
  refine List.flatMap_congr fun entry hentry => ?_
  obtain ⟨aliasName, decl⟩ := entry
  refine map_signature_accessorList fun hreactive hproduct hclash => ?_
  exact h ⟨hreactive, (aliasName, decl), hentry, hproduct, hclash⟩

/-- What keeps the accessors of one parser apart: that its constructors are taken by parameters of
different types, and that no container has an empty simple name. -/
structure OwnAccessorsApart (decl : TypeDecl) : Prop where
  types : (decl.publicConstructors.map (accessorTypes decl)).Nodup
  named : ∀ ctor ∈ decl.publicConstructors, (∃ param ∈ ctor.params, TakesToken param) →
    ∀ container ∈ accessorContainers decl decl.wrappers, container.simpleName ≠ ""

theorem nodup_accessorSignatures_iff {config : Config} {aliasName : String} {decl : TypeDecl}
    (h : config.reactive.isEnabled = true → decl.product?.isSome = true →
      ¬AccessorsClash decl decl.wrappers) :
    (accessorSignatures config aliasName decl).Nodup ↔
      (config.reactive.isEnabled = true → decl.product?.isSome = true →
        OwnAccessorsApart decl) := by
  by_cases hmade : config.reactive.isEnabled = true ∧ decl.product?.isSome = true
  · obtain ⟨hreactive, hproduct⟩ := hmade
    obtain ⟨members, hmembers⟩ : ∃ members,
        accessors config aliasName decl decl.wrappers = .ok (some members) := by
      rcases accessors_cases config aliasName decl decl.wrappers with
        ⟨hidle, -⟩ | ⟨-, -, hclash, -⟩ | ⟨-, _, _, hok⟩
      · exact absurd ⟨hreactive, hproduct⟩ hidle
      · exact absurd hclash (h hreactive hproduct)
      · exact ⟨_, hok⟩
    have hlist : accessorList config aliasName decl = members := by rw [accessorList, hmembers]
    rw [← map_signature_accessorList h, hlist, nodup_map_signature_iff hmembers]
    exact ⟨fun hapart _ _ => ⟨hapart.1, hapart.2⟩, fun hapart =>
      ⟨(hapart hreactive hproduct).types, (hapart hreactive hproduct).named⟩⟩
  · have hnone : ¬(config.reactive.isEnabled && decl.product?.isSome) = true := by
      rwa [Bool.and_eq_true]
    rw [accessorSignatures, if_neg hnone]
    exact iff_of_true List.nodup_nil fun hreactive hproduct =>
      absurd ⟨hreactive, hproduct⟩ hmade

/-- The name of every accessor starts in one way. -/
theorem exists_eq_of_mem_accessorSignatures {config : Config} {aliasName : String}
    {decl : TypeDecl} {sig : String × List TypeExpr}
    (h : sig ∈ accessorSignatures config aliasName decl) : ∃ rest, sig.1 = "as" ++ rest := by
  unfold accessorSignatures at h
  split at h
  · obtain ⟨ctor, -, hsig⟩ := List.mem_flatMap.1 h
    obtain ⟨name, hname, rfl⟩ := List.mem_map.1 hsig
    rcases List.mem_cons.1 hname with rfl | hname
    · exact ⟨aliasName, rfl⟩
    · split at hname
      · obtain ⟨container, -, rfl⟩ := List.mem_map.1 hname
        exact ⟨aliasName ++ container.simpleName, String.append_assoc ..⟩
      · cases hname
  · cases h

end FluentHttp.Api
