import FluentHttp.Proofs.Api.Signatures
import FluentHttp.Proofs.Generated

/-!
# FluentHttp.Proofs.MethodClashes

When two methods of a fixed class have the same name and take the same types.

The extensions never do, as their names tell the alias and their parameters the constructor. The
methods of the entry class come from six sources, and only classes of one category are compared by
their aliases. So setters of fields with one alias clash, and factories can clash with what else
their alias names (`Session.nodup_signature_entry_iff`).
-/

namespace FluentHttp

open Java

namespace Api

/-- What keeps the methods of the entry class apart. -/
structure SignaturesApart (config : Config) (registry : Registry) : Prop where
  /-- No two setters have the same name. -/
  setters : (setterNames registry).Nodup
  /-- No factory is like the method that formats URLs. -/
  format : ¬HasFactory registry.params "format" [.ofLibrary .string []]
  /-- No factory is like a setter. -/
  factorySetter : ∀ name ∈ setterNames registry, ¬HasFactory registry.params name []
  /-- No factory is like the method that applies the default base URL. -/
  factoryDefault : registry.defaultDomain.isSome = true →
    ¬HasFactory registry.params "addDefaultDomainIfAbsent" [.variable "P"]
  /-- No factory is like an accessor. -/
  factoryAccessor : ∀ name types, HasFactory registry.params name types →
    ∀ entry ∈ registry.parsers,
      (name, formattedTypes types) ∉ accessorSignatures config entry.1 entry.2
  /-- The accessors of each parser differ. -/
  ownAccessors : ∀ entry ∈ registry.parsers, config.reactive.isEnabled = true →
    entry.2.product?.isSome = true → OwnAccessorsApart entry.2
  /-- The accessors of different parsers differ. -/
  accessors : registry.parsers.Pairwise fun entry other =>
    (accessorSignatures config entry.1 entry.2).Disjoint
      (accessorSignatures config other.1 other.2)

variable {config : Config} {registry : Registry}

/-! ### Sources that never meet -/

/-- A factory that takes a string first takes arguments for formatting last, so none takes two
strings. -/
theorem addDomainSignature_not_mem_factorySignatures (builders : AliasTable) :
    addDomainSignature ∉ factorySignatures builders := by
  intro h
  obtain ⟨_, types, heq, -⟩ := exists_of_mem_factorySignatures h
  have htypes : formattedTypes types = [stringType, stringType] := (Prod.mk.inj heq).2.symm
  unfold formattedTypes at htypes
  split at htypes
  · have hlast := congrArg List.getLast? htypes
    rw [List.getLast?_concat] at hlast
    cases hlast
  · next hfirst =>
      rw [htypes] at hfirst
      exact hfirst (by decide)

/-- What factories have in common with what the fields contribute: a factory without parameters may
be named like a setter, and one for a builder like the method that applies the default base URL. -/
theorem factorySignatures_disjoint_fieldSignatures_iff :
    (factorySignatures registry.params).Disjoint (fieldSignatures registry) ↔
      (∀ name ∈ setterNames registry, ¬HasFactory registry.params name []) ∧
        (registry.defaultDomain.isSome = true →
          ¬HasFactory registry.params "addDefaultDomainIfAbsent" [.variable "P"]) := by
  have hnone : formattedTypes [] = [] := rfl
  have hbuilder : formattedTypes [.variable "P"] = [.variable "P"] := rfl
  constructor
  · intro hdisjoint
    constructor
    · intro name hname hfactory
      rw [← mem_factorySignatures_iff, hnone] at hfactory
      exact hdisjoint hfactory (mem_fieldSignatures_iff.2 (.inl ⟨hname, rfl⟩))
    · intro hdefault hfactory
      rw [← mem_factorySignatures_iff, hbuilder] at hfactory
      exact hdisjoint hfactory (mem_fieldSignatures_iff.2 (.inr (.inl ⟨hdefault, rfl⟩)))
  · intro hapart sig hfactory hfield
    obtain ⟨hsetters, hdefault⟩ := hapart
    obtain ⟨name, types⟩ := sig
    rcases mem_fieldSignatures_iff.1 hfield with ⟨hname, htypes⟩ | ⟨hsome, heq⟩ | ⟨-, heq⟩
    · obtain rfl : types = [] := htypes
      rw [← hnone, mem_factorySignatures_iff] at hfactory
      exact hsetters name hname hfactory
    · rw [heq, defaultDomainSignature, ← hbuilder, mem_factorySignatures_iff] at hfactory
      exact hdefault hsome hfactory
    · rw [heq] at hfactory
      exact addDomainSignature_not_mem_factorySignatures _ hfactory

/-- What factories have in common with accessors. -/
theorem factorySignatures_disjoint_accessorSignatures_iff :
    (factorySignatures registry.params).Disjoint
        (registry.parsers.flatMap fun entry => accessorSignatures config entry.1 entry.2) ↔
      ∀ name types, HasFactory registry.params name types → ∀ entry ∈ registry.parsers,
        (name, formattedTypes types) ∉ accessorSignatures config entry.1 entry.2 := by
  constructor
  · intro hdisjoint name types hfactory entry hentry haccessor
    exact hdisjoint (mem_factorySignatures_iff.2 hfactory)
      (List.mem_flatMap.2 ⟨entry, hentry, haccessor⟩)
  · intro hapart sig hfactory haccessor
    obtain ⟨name, types, rfl, hmem⟩ := exists_of_mem_factorySignatures hfactory
    obtain ⟨entry, hentry, haccessor⟩ := List.mem_flatMap.1 haccessor
    exact hapart name types hmem entry hentry haccessor

/-- Neither the method that formats URLs nor what the fields contribute is named like an accessor.
-/
theorem disjoint_accessorSignatures :
    signature formatMethod ∉
        registry.parsers.flatMap (fun entry => accessorSignatures config entry.1 entry.2) ∧
      (fieldSignatures registry).Disjoint
        (registry.parsers.flatMap fun entry => accessorSignatures config entry.1 entry.2) := by
  constructor
  · intro hmem
    obtain ⟨entry, -, haccessor⟩ := List.mem_flatMap.1 hmem
    obtain ⟨rest, hname⟩ := exists_eq_of_mem_accessorSignatures haccessor
    have hchars := congrArg String.toList hname
    simp [signature, formatMethod] at hchars
  · intro sig hfield hmem
    obtain ⟨entry, -, haccessor⟩ := List.mem_flatMap.1 hmem
    obtain ⟨rest, hname⟩ := exists_eq_of_mem_accessorSignatures haccessor
    exact (fst_ne_of_mem_fieldSignatures hfield).2 rest hname

/-! ### All methods -/

theorem map_signature_entryMethods (h : ¬ParsersClash config registry.parsers) :
    (entryMethods config registry).map signature =
      signature formatMethod :: factorySignatures registry.params ++ fieldSignatures registry ++
        registry.parsers.flatMap fun entry => accessorSignatures config entry.1 entry.2 := by
  rw [entryMethods, List.map_append, List.map_append, List.map_cons, map_signature_allFactories,
    map_signature_fieldMembers, map_signature_allAccessors h]

/-- The methods before the accessors have different signatures exactly if neither the setters nor a
factory and another method clash. -/
theorem nodup_factories_fields_iff (haliases : (registry.params.map (·.1)).Nodup)
    (htypes : ∀ entry ∈ registry.params, (constructorTypes entry.2).Nodup) :
    (signature formatMethod :: factorySignatures registry.params
        ++ fieldSignatures registry).Nodup ↔
      ¬HasFactory registry.params "format" [.ofLibrary .string []] ∧
        (setterNames registry).Nodup ∧
          (factorySignatures registry.params).Disjoint (fieldSignatures registry) := by
  have hformat : signature formatMethod =
      ("format", formattedTypes [.ofLibrary .string []]) := rfl
  have hfield : signature formatMethod ∉ fieldSignatures registry :=
    fun hmem => (fst_ne_of_mem_fieldSignatures hmem).1 rfl
  rw [List.nodup_append', List.nodup_cons, nodup_fieldSignatures_iff, List.disjoint_cons_left,
    and_iff_left (nodup_factorySignatures haliases htypes), and_iff_right hfield, hformat,
    mem_factorySignatures_iff]

/-- The accessors have different signatures exactly if those of each parser do, and no two parsers
have any in common. -/
theorem nodup_accessorSignatures_flatMap_iff (h : ¬ParsersClash config registry.parsers) :
    (registry.parsers.flatMap fun entry => accessorSignatures config entry.1 entry.2).Nodup ↔
      (∀ entry ∈ registry.parsers, config.reactive.isEnabled = true →
        entry.2.product?.isSome = true → OwnAccessorsApart entry.2) ∧
      registry.parsers.Pairwise fun entry other =>
        (accessorSignatures config entry.1 entry.2).Disjoint
          (accessorSignatures config other.1 other.2) := by
  rw [List.nodup_flatMap]
  refine and_congr (forall₂_congr fun entry hentry => ?_) Iff.rfl
  refine nodup_accessorSignatures_iff fun hreactive hproduct hclash => ?_
  exact h ⟨hreactive, entry, hentry, hproduct, hclash⟩

/-- The methods of the entry class have different signatures exactly if their sources are kept
apart. -/
theorem nodup_map_signature_entryMethods_iff (h : ¬ParsersClash config registry.parsers)
    (haliases : (registry.params.map (·.1)).Nodup)
    (htypes : ∀ entry ∈ registry.params, (constructorTypes entry.2).Nodup) :
    ((entryMethods config registry).map signature).Nodup ↔ SignaturesApart config registry := by
  obtain ⟨hformat, hfields⟩ := @disjoint_accessorSignatures config registry
  rw [map_signature_entryMethods h, List.nodup_append', nodup_factories_fields_iff haliases htypes,
    nodup_accessorSignatures_flatMap_iff h, factorySignatures_disjoint_fieldSignatures_iff,
    List.disjoint_append_left, List.disjoint_cons_left,
    factorySignatures_disjoint_accessorSignatures_iff, and_iff_right hformat, and_iff_left hfields]
  constructor
  · intro hapart
    obtain ⟨⟨hformatted, hsetters, hfactorySetter, hfactoryDefault⟩, ⟨hown, haccessors⟩,
      hfactoryAccessor⟩ := hapart
    exact ⟨hsetters, hformatted, hfactorySetter, hfactoryDefault, hfactoryAccessor, hown,
      haccessors⟩
  · intro hapart
    exact ⟨⟨hapart.format, hapart.setters, hapart.factorySetter, hapart.factoryDefault⟩,
      ⟨hapart.ownAccessors, hapart.accessors⟩, hapart.factoryAccessor⟩

end Api

open Api

namespace Session

variable {session : Session} {round : Round} {classes : List ClassDecl}

/-- **When methods of the fixed classes clash.** Let a round generate classes from builders and
parsers whose public constructors each take different types. Then no two extensions have the same
name and the same types of parameters. No two methods of the entry class do exactly if all setters
have different names, no factory is like another method, and the accessors of each parser and of any
two parsers differ. -/
theorem nodup_signature_entry_iff (h : session.outcomeOf round = .generated classes)
    (hbuilders : ∀ entry ∈ round.builders, (constructorTypes entry.2).Nodup)
    (hparsers : ∀ entry ∈ round.parsers, (constructorTypes entry.2).Nodup) :
    ∃ wrappers entry extensions, classes = wrappers ++ [entry, extensions] ∧
      entry.name = "RxHttp" ∧ extensions.name = "RxHttpExtensions" ∧
      ((entry.methods.map signature).Nodup ↔ SignaturesApart session.config round.registry) ∧
      (extensions.methods.map signature).Nodup := by
  obtain ⟨hclear, rfl⟩ := eq_classesOf_of_outcomeOf h
  have haliases : ∀ decls : List TypeDecl, ((AliasTable.ofDecls decls).map (·.1)).Nodup := by
    intro decls
    rw [AliasTable.map_fst_ofDecls]
    exact nodup_eraseDups _
  refine ⟨wrapperClasses session.config round.registry.params,
    entryOf session.config round.registry, extensionsOf session.config round.registry,
    rfl, rfl, rfl, ?_, ?_⟩
  · rw [methods_entryOf]
    exact nodup_map_signature_entryMethods_iff (not_or.1 hclear).2 (haliases _) hbuilders
  · rw [methods_extensionsOf]
    exact nodup_map_signature_allExtensions (haliases _) hparsers

theorem signaturesApart_serviceRound : SignaturesApart {} serviceRound.registry := by
  have haliases : ∀ name types, HasFactory serviceRound.registry.params name types →
      name = "get" := by
    intro name types hfactory
    have hmem : name ∈ serviceRound.registry.params.map (·.1) := by
      obtain ⟨decl, hentry, -⟩ := hfactory
      exact List.mem_map_of_mem hentry
    have hnames : serviceRound.registry.params.map (·.1) = ["get"] := by decide
    rw [hnames] at hmem
    exact List.mem_singleton.1 hmem
  have hparsers : serviceRound.registry.parsers =
      [("Page", pageParser [tokenConstructor] (.variable "T"))] := by decide
  constructor
  · decide
  · exact fun hfactory => absurd (haliases _ _ hfactory) (by decide)
  · intro name hname hfactory
    rw [haliases _ _ hfactory] at hname
    revert hname
    decide
  · exact fun _ hfactory => absurd (haliases _ _ hfactory) (by decide)
  · intro name types hfactory entry _ haccessor
    obtain ⟨rest, hname⟩ := exists_eq_of_mem_accessorSignatures haccessor
    have hchars := congrArg String.toList ((haliases _ _ hfactory).symm.trans hname)
    simp at hchars
  · rw [hparsers, List.forall_mem_singleton]
    intro _ _
    exact ⟨by decide, fun _ _ _ => by decide⟩
  · rw [hparsers]
    exact List.pairwise_singleton _ _

theorem nodup_signature_entry_iff_serviceRound :
    (∀ entry ∈ serviceRound.builders, (constructorTypes entry.2).Nodup) ∧
      (∀ entry ∈ serviceRound.parsers, (constructorTypes entry.2).Nodup) ∧
      ∃ wrappers entry extensions,
        ({} : Session).outcomeOf serviceRound = .generated (wrappers ++ [entry, extensions]) ∧
          (entry.methods.map signature).Nodup ∧ (extensions.methods.map signature).Nodup := by
  have hbuilders : ∀ entry ∈ serviceRound.builders, (constructorTypes entry.2).Nodup := by decide
  have hparsers : ∀ entry ∈ serviceRound.parsers, (constructorTypes entry.2).Nodup := by decide
  obtain ⟨wrappers, entry, extensions, hclasses, -, -, hentry, hextensions⟩ :=
    nodup_signature_entry_iff outcomeOf_serviceRound hbuilders hparsers
  exact ⟨hbuilders, hparsers, wrappers, entry, extensions, hclasses ▸ outcomeOf_serviceRound,
    hentry.2 signaturesApart_serviceRound, hextensions⟩

/-- A round with two fields that hold base URLs and have no aliases of their own. -/
def twoBasesRound : Round :=
  { fields := [baseField "com.example.Shop", baseField "com.example.Blog"] }

/-- The setters of fields of one name clash, though the fields have different qualified names. -/
theorem not_nodup_signature_twoBasesRound :
    (twoBasesRound.fields.map (·.qualifiedName)).Nodup ∧ twoBasesRound.types = [] ∧
      ∃ wrappers entry extensions,
        ({} : Session).outcomeOf twoBasesRound = .generated (wrappers ++ [entry, extensions]) ∧
          entry.name = "RxHttp" ∧
          setterNames twoBasesRound.registry =
            ["setDomainToBaseIfAbsent", "setDomainToBaseIfAbsent"] ∧
          ¬(entry.methods.map signature).Nodup := by
  have hfailures : twoBasesRound.failures {} = [] := by decide
  have hclear : ¬Clashes {} twoBasesRound.registry :=
    not_clashes_of_no_wrappers (by decide) (by decide)
  have hsetters : setterNames twoBasesRound.registry =
      ["setDomainToBaseIfAbsent", "setDomainToBaseIfAbsent"] := by decide
  refine ⟨by decide, rfl, wrapperClasses {} twoBasesRound.registry.params,
    entryOf {} twoBasesRound.registry, extensionsOf {} twoBasesRound.registry,
    outcomeOf_of_not_clashes {} hfailures hclear, rfl, hsetters, ?_⟩
  rw [methods_entryOf]
  intro hnodup
  have hapart := (nodup_map_signature_entryMethods_iff (not_or.1 hclear).2 (by decide)
    (by decide)).1 hnodup
  have hdifferent := hapart.setters
  rw [hsetters] at hdifferent
  revert hdifferent
  decide

end Session

end FluentHttp
