import FluentHttp.Api.Generation
import FluentHttp.Proofs.Api.Containers

/-!
# FluentHttp.Proofs.Api.Generation

What a registry leads to. There is an error exactly if two builders have the same simple name, and
so would have the same wrapper, or if the containers of some parser clash (`Clashes`). If there is
none, the classes are those of `classesOf`, which goes through the registry once for each of their
parts, and the reports are about the parsers that parse nothing (`generate_of_not_clashes`).
-/

namespace FluentHttp.Api

open Java

variable {config : Config}

/-! ### Wrappers -/

theorem wrapperName_eq_iff {decl other : TypeDecl} :
    wrapperName decl = wrapperName other ↔ decl.simpleName = other.simpleName :=
  String.append_right_inj _

/-- The simple names of builders, which their wrappers are named after. -/
def simpleNames (builders : AliasTable) : List String :=
  builders.map fun (_, decl) => decl.simpleName

/-- The wrappers of builders, in order. -/
def wrapperClasses (config : Config) (builders : AliasTable) : List ClassDecl :=
  builders.map fun (_, decl) => wrapper config decl

/-- Builders whose wrappers have new and different names have their wrappers made. -/
theorem wrappers_of_nodup {taken : List String} {builders : AliasTable}
    (hnodup : (simpleNames builders).Nodup)
    (hnew : ∀ entry ∈ builders, wrapperName entry.2 ∉ taken) :
    wrappers config taken builders = .ok (wrapperClasses config builders) := by
  induction builders generalizing taken with
  | nil => rfl
  | cons entry rest ih =>
      obtain ⟨aliasName, decl⟩ := entry
      obtain ⟨hfirst, hrest⟩ := List.nodup_cons.1 hnodup
      have hothers : ∀ entry ∈ rest, wrapperName entry.2 ∉ wrapperName decl :: taken := by
        intro other hother hmem
        rcases List.mem_cons.1 hmem with heq | hmem
        · exact hfirst (List.mem_map.2 ⟨other, hother, wrapperName_eq_iff.1 heq⟩)
        · exact hnew other (by simp [hother]) hmem
      rw [wrappers, if_neg (hnew (aliasName, decl) (by simp)), ih hrest hothers]
      rfl

/-- A wrapper whose name is taken is refused, be it by the names so far or by another wrapper. -/
theorem wrappers_of_clash {taken : List String} {builders : AliasTable}
    (h : ¬(simpleNames builders).Nodup ∨ ∃ entry ∈ builders, wrapperName entry.2 ∈ taken) :
    ∃ error, wrappers config taken builders = .error error := by
  induction builders generalizing taken with
  | nil => simp [simpleNames] at h
  | cons entry rest ih =>
      obtain ⟨aliasName, decl⟩ := entry
      rw [wrappers]
      by_cases htaken : wrapperName decl ∈ taken
      · rw [if_pos htaken]
        exact ⟨_, rfl⟩
      · rw [if_neg htaken]
        have hothers : ¬(simpleNames rest).Nodup ∨
            ∃ entry ∈ rest, wrapperName entry.2 ∈ wrapperName decl :: taken := by
          rcases h with hnodup | ⟨other, hother, hmem⟩
          · by_cases hrest : (simpleNames rest).Nodup
            · -- then it is the first builder that has the simple name of another one
              have hfirst : decl.simpleName ∈ simpleNames rest := by
                by_contra hfirst
                exact hnodup (List.nodup_cons.2 ⟨hfirst, hrest⟩)
              obtain ⟨other, hother, heq⟩ := List.mem_map.1 hfirst
              exact .inr ⟨other, hother, by simp [wrapperName_eq_iff.2 heq]⟩
            · exact .inl hrest
          · rcases List.mem_cons.1 hother with rfl | hother
            · exact absurd hmem htaken
            · exact .inr ⟨other, hother, by simp [hmem]⟩
        obtain ⟨error, herror⟩ := ih hothers
        exact ⟨error, by rw [herror]; rfl⟩

/-! ### Parsers -/

/-- The reactive accessors of a parser, if there are any to make and no containers clash. -/
def accessorList (config : Config) (aliasName : String) (decl : TypeDecl) : List Java.Member :=
  match accessors config aliasName decl decl.wrappers with
  | .ok (some own) => own
  | .ok none | .error _ => []

/-- The reactive accessors of parsers, in order. -/
def allAccessors (config : Config) (parsers : AliasTable) : List Java.Member :=
  parsers.flatMap fun (aliasName, decl) => accessorList config aliasName decl

/-- The extensions of parsers, in order. -/
def allExtensions (parsers : AliasTable) : List Java.Member :=
  parsers.flatMap fun (aliasName, decl) => (extensions aliasName decl).getD []

/-- The warnings about the parsers that parse nothing, in order. -/
def idleReports (parsers : AliasTable) : List Diagnostic :=
  (parsers.filter fun (_, decl) => decl.product?.isNone).map fun (_, decl) => nothingParsed decl

/-- In reactive mode, a parser that parses something has containers that clash. -/
def ParsersClash (config : Config) (parsers : AliasTable) : Prop :=
  config.reactive.isEnabled = true ∧
    ∃ entry ∈ parsers, entry.2.product?.isSome = true ∧ AccessorsClash entry.2 entry.2.wrappers

theorem allAccessors_of_disabled (h : config.reactive.isEnabled = false) (parsers : AliasTable) :
    allAccessors config parsers = [] := by
  have hobservable : config.reactive.observable? = none := by
    simpa [observable?_isSome, h] using config.reactive.observable?.isSome_iff_ne_none
  simp [allAccessors, accessorList, accessors_of_disabled hobservable]

theorem parserMembers_of_clash {parsers : AliasTable} (h : ParsersClash config parsers) :
    ∃ error, (parserMembers config parsers).2 = .error error := by
  obtain ⟨hreactive, entry, hentry, hproduct, hclash⟩ := h
  induction parsers with
  | nil => simp at hentry
  | cons first rest ih =>
      obtain ⟨aliasName, decl⟩ := first
      rw [parserMembers]
      rcases List.mem_cons.1 hentry with rfl | hentry
      · have hrefused : ¬∃ own, accessors config aliasName decl decl.wrappers = .ok own :=
          fun hok => exists_accessors_eq_ok_iff.1 hok ⟨hreactive, hproduct, hclash⟩
        rw [if_neg (by simpa using Option.isSome_iff_ne_none.1 hproduct)]
        cases haccessors : accessors config aliasName decl decl.wrappers with
        | ok own => exact absurd ⟨own, haccessors⟩ hrefused
        | error error => exact ⟨error, rfl⟩
      · obtain ⟨error, herror⟩ := ih hentry
        split
        · exact ⟨error, herror⟩
        · cases accessors config aliasName decl decl.wrappers with
          | error own => exact ⟨own, rfl⟩
          | ok own => exact ⟨error, by simp [herror, Except.map]⟩

theorem parserMembers_of_not_clash {parsers : AliasTable} (h : ¬ParsersClash config parsers) :
    parserMembers config parsers =
      (idleReports parsers,
        .ok
          { accessors := allAccessors config parsers
            extensions := allExtensions parsers }) := by
  induction parsers with
  | nil => rfl
  | cons entry rest ih =>
      obtain ⟨aliasName, decl⟩ := entry
      have hrest : ¬ParsersClash config rest := by
        rintro ⟨hreactive, other, hother, hclash⟩
        exact h ⟨hreactive, other, by simp [hother], hclash⟩
      rw [parserMembers]
      cases hproduct : decl.product? with
      | none =>
          have haccessors : accessors config aliasName decl decl.wrappers = .ok none :=
            accessors_of_no_product hproduct
          simp [ih hrest, idleReports, allAccessors, allExtensions, accessorList, haccessors,
            extensions, hproduct]
      | some product =>
          obtain ⟨own, hown⟩ : ∃ own, accessors config aliasName decl decl.wrappers = .ok own := by
            refine exists_accessors_eq_ok_iff.2 ?_
            rintro ⟨hreactive, hsome, hclash⟩
            exact h ⟨hreactive, (aliasName, decl), by simp, hsome, hclash⟩
          cases own <;>
            simp [ih hrest, idleReports, allAccessors, allExtensions, accessorList, hown,
              hproduct, Except.map]

/-! ### Everything -/

/-- Two builders have the same simple name, or the containers of a parser clash. -/
def Clashes (config : Config) (registry : Registry) : Prop :=
  ¬(simpleNames registry.params).Nodup ∨ ParsersClash config registry.parsers

/-- Parsers that name no containers do not clash. -/
theorem not_clashes_of_no_wrappers {registry : Registry}
    (hnodup : (simpleNames registry.params).Nodup)
    (h : ∀ entry ∈ registry.parsers, entry.2.wrappers = []) : ¬Clashes config registry := by
  intro hclash
  rcases hclash with hbuilders | ⟨-, entry, hentry, -, hparser⟩
  · exact hbuilders hnodup
  · rw [h entry hentry] at hparser
    exact not_accessorsClash_nil hparser

/-- The classes of a registry: the wrappers, the entry class and the extensions. -/
def classesOf (config : Config) (registry : Registry) : List ClassDecl :=
  wrapperClasses config registry.params ++
    [entryClass config registry (allFactories config registry.params)
      (allAccessors config registry.parsers),
      extensionsClass config (allExtensions registry.parsers)]

/-- All classes are in the configured package. -/
theorem package_of_mem_classesOf {registry : Registry} {generated : ClassDecl}
    (h : generated ∈ classesOf config registry) : generated.package = config.package := by
  rcases List.mem_append.1 h with hwrapper | hfixed
  · obtain ⟨entry, -, rfl⟩ := List.mem_map.1 hwrapper
    rfl
  · rcases List.mem_pair.1 hfixed with rfl | rfl <;> rfl

/-- A class is known by its simple name only where there is no package. -/
theorem qualifiedName_eq_qualified (hpackage : config.package ≠ "") {generated : ClassDecl}
    (h : generated.package = config.package) :
    generated.qualifiedName = config.qualified generated.name := by
  have hne : ¬generated.package.isEmpty = true := by simpa [h] using hpackage
  rw [ClassDecl.qualifiedName, if_neg hne, h]
  rfl

/-- The fixed classes are named as if they were wrappers too. -/
theorem map_name_classesOf (registry : Registry) :
    (classesOf config registry).map (·.name) =
      (simpleNames registry.params ++ ["", "Extensions"]).map (entryName ++ ·) := by
  rw [classesOf, List.map_append, List.map_append, wrapperClasses, simpleNames, List.map_map,
    List.map_map]
  rfl

theorem generate_of_clashes {registry : Registry} (h : Clashes config registry) :
    ∃ error, (generate config registry).2 = .error error := by
  rw [generate]
  cases hwrappers : wrappers config [] registry.params with
  | error error => exact ⟨error, rfl⟩
  | ok classes =>
      rcases h with hnodup | hparsers
      · obtain ⟨error, herror⟩ : ∃ error, wrappers config [] registry.params = .error error :=
          wrappers_of_clash (.inl hnodup)
        rw [herror] at hwrappers
        cases hwrappers
      · obtain ⟨error, herror⟩ := parserMembers_of_clash hparsers
        exact ⟨error, by simp [herror, Except.map]⟩

/-- Without a clash, a registry leads to its classes. -/
theorem generate_of_not_clashes {registry : Registry} (h : ¬Clashes config registry) :
    generate config registry =
      (idleReports registry.parsers, .ok (classesOf config registry)) := by
  obtain ⟨hnodup, hparsers⟩ := not_or.1 h
  rw [generate, wrappers_of_nodup (not_not.1 hnodup) (by simp),
    parserMembers_of_not_clash hparsers]
  rfl

end FluentHttp.Api
