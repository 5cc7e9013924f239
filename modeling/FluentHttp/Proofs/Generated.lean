import FluentHttp.Proofs.Api.Generation
import FluentHttp.Proofs.Contract
import Mathlib.Data.List.Nodup

/-!
# FluentHttp.Proofs.Generated

The classes that a round generates. A round that breaks no contract generates the classes of its
registry unless these clash (`Round.outcome_eq_generated_iff`). From this follows when classes are
generated, which ones, in which order and with which members (`Session.outcomeOf_of_no_failures`).

What counts as a clash are two wrappers of one name. The two fixed classes are not compared with the
wrappers, so a builder can take the name of one of them (`Session.nodup_qualifiedName_iff`).
-/

namespace FluentHttp

open Api

namespace Round

theorem failures_eq_nil_of_generated {config : Config} {round : Round}
    {classes : List Java.ClassDecl} (h : (round.outcome config).2 = .generated classes) :
    round.failures config = [] := by
  by_contra hfailures
  rw [(outcome_of_failures hfailures).2] at h
  cases h

/-- What a round that breaks no contract leads to is up to generation. -/
theorem outcome_of_failures_eq_nil {config : Config} {round : Round}
    (h : round.failures config = []) :
    round.outcome config =
      match generate config round.registry with
      | (reports, .ok classes) =>
        ((Survey.ofRound config round).reports ++ reports, .generated classes)
      | (reports, .error error) =>
        ((Survey.ofRound config round).reports ++ reports ++ [error.toDiagnostic], .aborted) := by
  have hnil : (Survey.ofRound config round).failures = [] :=
    (Survey.ofRound_spec config round).1.trans h
  rw [outcome, if_neg (by simp [hnil]), Survey.registry_ofRound hnil]
  obtain ⟨reports, error | classes⟩ := generate config round.registry <;> rfl

/-- A round that breaks no contract generates the classes of its registry unless these clash. -/
theorem outcome_eq_generated_iff {config : Config} {round : Round}
    (h : round.failures config = []) {classes : List Java.ClassDecl} :
    (round.outcome config).2 = .generated classes ↔
      ¬Clashes config round.registry ∧ classes = classesOf config round.registry := by
  rw [outcome_of_failures_eq_nil h]
  by_cases hclash : Clashes config round.registry
  · obtain ⟨error, herror⟩ := generate_of_clashes hclash
    generalize generate config round.registry = generated at herror
    obtain ⟨reports, result⟩ := generated
    obtain rfl : result = .error error := herror
    simp [hclash]
  · rw [generate_of_not_clashes hclash]
    simp [hclash, eq_comm]

/-- Besides what the intake reports, a round that generates classes reports the parsers that parse
nothing. -/
theorem reports_of_generated {config : Config} {round : Round} {classes : List Java.ClassDecl}
    (h : (round.outcome config).2 = .generated classes) :
    (round.outcome config).1 =
      (Survey.ofRound config round).reports ++ idleReports round.parsers := by
  have hfailures := failures_eq_nil_of_generated h
  have hclear := ((outcome_eq_generated_iff hfailures).1 h).1
  rw [outcome_of_failures_eq_nil hfailures, generate_of_not_clashes hclear]
  rfl

/-- A round that breaks no contract has at most one default base URL. -/
theorem toList_head?_defaultDomains {config : Config} {round : Round}
    (h : round.failures config = []) :
    (round.annotatedFields .defaultDomain).head?.toList =
      round.annotatedFields .defaultDomain := by
  have hlength : (round.annotatedFields .defaultDomain).length < 2 := by
    by_contra hlength
    exact failures_ne_nil_of_defaultDomains (Nat.le_of_not_lt hlength) h
  match hfields : round.annotatedFields .defaultDomain with
  | [] => rfl
  | [field] => rfl
  | first :: second :: rest =>
      rw [hfields, List.length_cons, List.length_cons] at hlength
      omega

end Round

/-! ### The classes of a round -/

namespace Round

/-- The members of the entry class of a round: what every entry class has, the factories of the
builders, what the fields contribute in the order of their categories, and in reactive mode the
accessors of the parsers. -/
def entryMembers (config : Config) (round : Round) : List Java.Member :=
  [entryConstructor, formatMethod]
    ++ round.builders.flatMap (fun (aliasName, decl) => factories config aliasName decl)
    ++ (round.annotatedFields .converter).map converterSetter
    ++ (round.annotatedFields .okClient).map clientSetter
    ++ (round.annotatedFields .domain).map domainSetter
    ++ (round.annotatedFields .defaultDomain).map defaultDomainMethod
    ++ (if round.annotatedFields .domain = [] ∧ round.annotatedFields .defaultDomain = [] then []
      else [addDomainMethod])
    ++ if config.reactive.isEnabled then
        round.parsers.flatMap fun (aliasName, decl) => accessorList config aliasName decl
      else []

/-- The members of the extensions of a round: a constructor that is private, and the extensions of
the parsers. -/
def extensionMembers (round : Round) : List Java.Member :=
  { name := "RxHttpExtensions", modifiers := { isPrivate := true }, returnType := none }
    :: round.parsers.flatMap fun (aliasName, decl) => (extensions aliasName decl).getD []

theorem hasDomains_registry (round : Round) :
    round.registry.hasDomains = false ↔
      round.annotatedFields .domain = [] ∧ round.annotatedFields .defaultDomain = [] := by
  simp [Registry.hasDomains, registry]

/-- The entry class of a registry without failures has the members of its round. -/
theorem members_entryClass {config : Config} {round : Round} (h : round.failures config = []) :
    (entryClass config round.registry (allFactories config round.registry.params)
      (allAccessors config round.registry.parsers)).members = round.entryMembers config := by
  have haccessors : allAccessors config round.registry.parsers =
      if config.reactive.isEnabled then
        round.parsers.flatMap fun (aliasName, decl) => accessorList config aliasName decl
      else [] := by
    split
    · rfl
    · next hdisabled => exact allAccessors_of_disabled (by simpa using hdisabled) _
  have hdomain : (if round.registry.hasDomains then [addDomainMethod] else []) =
      if round.annotatedFields .domain = [] ∧ round.annotatedFields .defaultDomain = [] then []
      else [addDomainMethod] := by
    by_cases hnone : round.registry.hasDomains = false
    · rw [if_pos (hasDomains_registry round |>.1 hnone), hnone]
      rfl
    · rw [if_neg ((hasDomains_registry round).not.1 hnone), if_pos (by simpa using hnone)]
  simp only [entryClass, fieldMembers, haccessors, hdomain, entryMembers]
  simp only [registry, toList_head?_defaultDomains h, allFactories, List.append_assoc,
    List.cons_append, List.nil_append]

end Round

namespace Session

variable {session : Session} {round : Round} {classes : List Java.ClassDecl}

/-- A session generates the classes that the round leads to by itself. -/
theorem outcome_of_outcomeOf (h : session.outcomeOf round = .generated classes) :
    (round.outcome session.config).2 = .generated classes := by
  have hskip : session.outcomeOf round ≠ .skipped := by simp [h]
  exact (process_of_ne_skipped hskip).1.symm.trans h

/-- If a session generates classes, then nothing clashes, and they are those of the registry. -/
theorem eq_classesOf_of_outcomeOf (h : session.outcomeOf round = .generated classes) :
    ¬Clashes session.config round.registry ∧
      classes = classesOf session.config round.registry := by
  have hgenerated := outcome_of_outcomeOf h
  exact (Round.outcome_eq_generated_iff (Round.failures_eq_nil_of_generated hgenerated)).1
    hgenerated

/-- A new session generates the classes of a round that breaks no contract and has no clash. -/
theorem outcomeOf_of_not_clashes (config : Config) (hfail : round.failures config = [])
    (hclear : ¬Clashes config round.registry) :
    ({ config } : Session).outcomeOf round = .generated (classesOf config round.registry) := by
  have hskip : ({ config } : Session).outcomeOf round ≠ .skipped := by
    simp [outcomeOf_eq_skipped_iff]
  exact (process_of_ne_skipped hskip).1.trans
    ((Round.outcome_eq_generated_iff hfail).2 ⟨hclear, rfl⟩)

/-- **The classes of a round.** A round that is not skipped and breaks no contract generates classes
unless two of its builders have the same simple name or, in reactive mode, a parser with one type
parameter that parses something has two containers of one simple name.

The classes are the wrappers of the builders, the entry class and the extensions, all in the
configured package. There is one builder and one parser for each alias, in the order in which the
aliases first come up: the last class that carries it. A parser that parses nothing has no members
and is reported instead. -/
theorem outcomeOf_of_no_failures (session : Session) (round : Round)
    (hskip : session.outcomeOf round ≠ .skipped) (hfail : round.failures session.config = []) :
    let config := session.config
    (round.builders.HoldsLast (round.annotatedTypes .param) ∧
      round.parsers.HoldsLast (round.annotatedTypes .parser)) ∧
    ((∀ classes, session.outcomeOf round ≠ .generated classes) ↔
      ¬(round.builders.map fun (_, decl) => decl.simpleName).Nodup ∨
        config.reactive.isEnabled = true ∧
          ∃ entry ∈ round.parsers, entry.2.product?.isSome = true ∧
            entry.2.typeParams.length = 1 ∧
              ∃ first ∈ containerNames entry.2.wrappers,
                ∃ second ∈ containerNames entry.2.wrappers,
                  first ≠ second ∧ simpleName first = simpleName second) ∧
    ∀ classes, session.outcomeOf round = .generated classes →
      (∃ entry extensions : Java.ClassDecl,
        classes =
          round.builders.map (fun (_, decl) => wrapper config decl) ++ [entry, extensions] ∧
        entry.name = "RxHttp" ∧ entry.members = round.entryMembers config ∧
        extensions.name = "RxHttpExtensions" ∧ extensions.members = round.extensionMembers) ∧
      (∀ generated ∈ classes, generated.package = config.package) ∧
      session.reportsOf round =
        session.notes round ++ (Survey.ofRound config round).reports
          ++ (round.parsers.filter fun (_, decl) => decl.product?.isNone).map
            fun (_, decl) => nothingParsed decl := by
  intro config
  obtain ⟨houtcome, hreports⟩ := process_of_ne_skipped hskip
  have hiff : ∀ classes, (round.outcome session.config).2 = .generated classes ↔
      ¬Clashes session.config round.registry ∧
        classes = classesOf session.config round.registry :=
    fun _ => Round.outcome_eq_generated_iff hfail
  refine ⟨⟨AliasTable.holdsLast_ofDecls _, AliasTable.holdsLast_ofDecls _⟩, ?_, ?_⟩
  · -- there is a clash exactly if nothing is generated
    have hclash : (∀ classes, session.outcomeOf round ≠ .generated classes) ↔
        Clashes config round.registry := by
      rw [houtcome]
      simp only [ne_eq, hiff]
      constructor
      · intro h
        by_contra hclear
        exact h _ ⟨hclear, rfl⟩
      · exact fun hclash _ h => h.1 hclash
    exact hclash
  · intro classes hclasses
    rw [houtcome] at hclasses
    obtain ⟨-, rfl⟩ := (hiff classes).1 hclasses
    refine ⟨⟨_, _, rfl, rfl, Round.members_entryClass hfail, rfl, rfl⟩, ?_, ?_⟩
    · exact fun generated hmem => package_of_mem_classesOf hmem
    · rw [hreports, Round.reports_of_generated hclasses, ← List.append_assoc]
      rfl

/-- A round in which one alias is given twice, with a parser. -/
def sampleRound : Round :=
  { types :=
      [plainBuilder "com.example.OldParam" "get", plainBuilder "com.example.PostParam" "post",
        plainBuilder "com.example.NewParam" "get",
        pageParser [tokenConstructor] (.variable "T")] }

theorem failures_sampleRound : sampleRound.failures {} = [] := by
  refine Round.failures_eq_nil_of_no_fields rfl ?_
  intro decl hdecl category hcategory
  simp only [sampleRound, List.mem_cons, List.not_mem_nil, or_false] at hdecl
  rcases hdecl with rfl | rfl | rfl | rfl <;> obtain rfl := Option.some.inj hcategory
  · exact Round.typeError?_plainBuilder sampleRound (by decide)
  · exact Round.typeError?_plainBuilder sampleRound (by decide)
  · exact Round.typeError?_plainBuilder sampleRound (by decide)
  · exact Round.typeError?_pageParser {} sampleRound (by decide)

theorem outcomeOf_sampleRound :
    ({} : Session).outcomeOf sampleRound = .generated (classesOf {} sampleRound.registry) :=
  outcomeOf_of_not_clashes {} failures_sampleRound
    (not_clashes_of_no_wrappers (by decide) (by decide))

/-- A round with a builder, a parser and a base URL. -/
def serviceRound : Round :=
  { types := [urlBuilder, pageParser [tokenConstructor] (.variable "T")]
    fields := [baseField "com.example.Service"] }

theorem outcomeOf_serviceRound :
    ({} : Session).outcomeOf serviceRound = .generated (classesOf {} serviceRound.registry) := by
  have hfailures : serviceRound.failures {} = [] := by
    refine Round.failures_eq_nil_of_types_of_fields ?_ ?_
    · intro decl hdecl category hcategory
      rcases List.mem_pair.1 hdecl with rfl | rfl <;> obtain rfl := Option.some.inj hcategory
      · exact serviceRound.typeError?_param_eq_none rfl rfl rfl rfl rfl (by decide)
      · exact Round.typeError?_pageParser {} serviceRound (by decide)
    · intro category
      cases category <;> decide
  exact outcomeOf_of_not_clashes {} hfailures
    (not_clashes_of_no_wrappers (by decide) (by decide))

theorem outcomeOf_of_no_failures_sampleRound :
    ({} : Session).outcomeOf sampleRound ≠ .skipped ∧ sampleRound.failures {} = [] ∧
      ∃ classes, ({} : Session).outcomeOf sampleRound = .generated classes ∧
        classes.map (·.name) =
          ["RxHttpNewParam", "RxHttpPostParam", "RxHttp", "RxHttpExtensions"] := by
  have hskip : ({} : Session).outcomeOf sampleRound ≠ .skipped := by simp [outcomeOf_sampleRound]
  obtain ⟨-, -, hgenerated⟩ := outcomeOf_of_no_failures {} sampleRound hskip failures_sampleRound
  obtain ⟨⟨entry, extensions, heq, hentry, -, hextensions, -⟩, -⟩ :=
    hgenerated _ outcomeOf_sampleRound
  refine ⟨hskip, failures_sampleRound, _, outcomeOf_sampleRound, ?_⟩
  rw [heq, List.map_append, List.map_cons, List.map_singleton, hentry, hextensions]
  decide

end Session

/-! ### The names of the classes -/

/-- Of classes in one package, the qualified names are different exactly if the names are. -/
theorem Java.nodup_map_qualifiedName_iff {classes : List ClassDecl} {package : String}
    (h : ∀ decl ∈ classes, decl.package = package) :
    (classes.map (·.qualifiedName)).Nodup ↔ (classes.map (·.name)).Nodup := by
  rw [List.nodup_iff_pairwise_ne, List.pairwise_map, List.nodup_iff_pairwise_ne, List.pairwise_map]
  refine List.Pairwise.iff_of_mem fun {decl other} hdecl hother => not_congr ?_
  rw [ClassDecl.qualifiedName, ClassDecl.qualifiedName, h decl hdecl, h other hother]
  split
  · rfl
  · exact String.append_right_inj _

/-- Builders with different simple names have wrappers with different names, and these are not the
names of the fixed classes unless a simple name is empty or `Extensions`. -/
theorem Api.nodup_map_name_classesOf_iff {config : Config} {registry : Registry}
    (h : (simpleNames registry.params).Nodup) :
    ((classesOf config registry).map (·.name)).Nodup ↔
      ∀ entry ∈ registry.params,
        entry.2.simpleName ≠ "" ∧ entry.2.simpleName ≠ "Extensions" := by
  have hinj : Function.Injective (entryName ++ ·) :=
    fun _ _ => (String.append_right_inj entryName).1
  have hfixed : ["", "Extensions"].Nodup := by decide
  rw [map_name_classesOf, List.nodup_map_iff hinj, List.nodup_append, and_iff_right h,
    and_iff_right hfixed]
  constructor
  · intro hapart entry hentry
    have hsimple : entry.2.simpleName ∈ simpleNames registry.params :=
      List.mem_map.2 ⟨entry, hentry, rfl⟩
    exact ⟨hapart _ hsimple _ (by simp), hapart _ hsimple _ (by simp)⟩
  · intro hsimple name hname other hother
    obtain ⟨entry, hentry, rfl⟩ := List.mem_map.1 hname
    rcases List.mem_pair.1 hother with rfl | rfl
    · exact (hsimple entry hentry).1
    · exact (hsimple entry hentry).2

namespace Session

variable {session : Session} {round : Round} {classes : List Java.ClassDecl}

/-- **The names of the classes of a round.** The wrappers of a round have different names, but one
of them may have the name of the entry class or of the extensions. The qualified names of the
classes are different exactly if no builder has a simple name that leads there. -/
theorem nodup_qualifiedName_iff (h : session.outcomeOf round = .generated classes) :
    (classes.map (·.qualifiedName)).Nodup ↔
      ∀ entry ∈ round.builders,
        entry.2.simpleName ≠ "" ∧ entry.2.simpleName ≠ "Extensions" := by
  have hgenerated := outcome_of_outcomeOf h
  have hfailures := Round.failures_eq_nil_of_generated hgenerated
  obtain ⟨hclear, rfl⟩ := (Round.outcome_eq_generated_iff hfailures).1 hgenerated
  have hbuilders : (simpleNames round.registry.params).Nodup := not_not.1 (not_or.1 hclear).1
  rw [Java.nodup_map_qualifiedName_iff fun _ => package_of_mem_classesOf]
  exact nodup_map_name_classesOf_iff hbuilders

theorem nodup_qualifiedName_iff_sampleRound :
    ∃ classes, ({} : Session).outcomeOf sampleRound = .generated classes ∧
      (classes.map (·.qualifiedName)).Nodup := by
  refine ⟨_, outcomeOf_sampleRound, (nodup_qualifiedName_iff outcomeOf_sampleRound).2 ?_⟩
  decide

/-- A round whose only builder has the simple name `Extensions`. -/
def extensionsRound : Round :=
  { types := [plainBuilder "com.example.Extensions" "extended"] }

/-- The wrapper of such a builder takes the name of the extensions. -/
theorem not_nodup_qualifiedName_extensionsRound :
    ∃ classes, ({} : Session).outcomeOf extensionsRound = .generated classes ∧
      classes.map (·.qualifiedName) =
        ["rxhttp.wrapper.param.RxHttpExtensions", "rxhttp.wrapper.param.RxHttp",
          "rxhttp.wrapper.param.RxHttpExtensions"] ∧
      ¬(classes.map (·.qualifiedName)).Nodup := by
  have hfailures : extensionsRound.failures {} = [] := by
    refine Round.failures_eq_nil_of_no_fields rfl ?_
    intro decl hdecl category hcategory
    obtain rfl := List.mem_singleton.1 hdecl
    obtain rfl := Option.some.inj hcategory
    exact Round.typeError?_plainBuilder extensionsRound (by decide)
  have hclear : ¬Clashes {} extensionsRound.registry := by
    rintro (hnodup | ⟨-, entry, hentry, -⟩)
    · exact hnodup (by decide)
    · have hparsers : extensionsRound.registry.parsers = [] := by decide
      simp [hparsers] at hentry
  have hnames : (classesOf {} extensionsRound.registry).map (·.qualifiedName) =
      ["rxhttp.wrapper.param.RxHttpExtensions", "rxhttp.wrapper.param.RxHttp",
        "rxhttp.wrapper.param.RxHttpExtensions"] := by
    decide
  refine ⟨_, outcomeOf_of_not_clashes {} hfailures hclear, hnames, ?_⟩
  rw [hnames]
  decide

end Session

end FluentHttp
