import FluentHttp.Proofs.Api.Members
import FluentHttp.Proofs.Generated

/-!
# FluentHttp.Proofs.ReactiveMode

What the choice of a reactive library has an effect on.

Reactive accessors make demands on parsers, and nothing else is demanded on their account. So a
round that generates classes for a reactive library generates them without one too, and what these
lack are the accessors. Between the two libraries the class that accessors return is all that
differs (`Session.outcomeOf_inMode`).
-/

namespace FluentHttp

open Api Java

/-- The configuration for another reactive library, or for none. -/
def Config.inMode (config : Config) (mode : Reactive) : Config :=
  { config with reactive := mode }

/-! ### Intake -/

section Intake

variable {config other : Config} {round : Round}

/-- What is demanded depends on whether there is a reactive library, not on which one. -/
theorem Contract.ofType_eq_of_isEnabled
    (h : config.reactive.isEnabled = other.reactive.isEnabled) (decl : TypeDecl)
    (category : Category) :
    ofType config round decl category = ofType other round decl category := by
  cases category <;> simp only [ofType, genericParser, h]

/-- Without a reactive library less is demanded. -/
theorem Contract.holds_of_disabled (h : other.reactive.isEnabled = false) {decl : TypeDecl}
    {category : Category}
    (hholds : ∀ clause ∈ ofType config round decl category, clause.holds = true) :
    ∀ clause ∈ ofType other round decl category, clause.holds = true := by
  cases category with
  | parser =>
      -- The last clause about generic parsers is the only one that knows the mode.
      simp only [ofType, List.forall_mem_append] at hholds ⊢
      refine ⟨⟨hholds.1.1, ?_⟩, hholds.2⟩
      have hgeneric := hholds.1.2
      split at hgeneric
      · next hparams =>
          rw [if_pos hparams]
          simp only [genericParser, List.forall_mem_cons] at hgeneric ⊢
          obtain ⟨hfinal, hnoArg, hrestricted, -⟩ := hgeneric
          exact ⟨hfinal, hnoArg, hrestricted, by simp [h]⟩
      · next hparams => simp [hparams]
  | param | converter | okClient | domain | defaultDomain => exact hholds

theorem acceptType_eq_of_isEnabled (h : config.reactive.isEnabled = other.reactive.isEnabled)
    (category : Category) :
    acceptType config round category = acceptType other round category := by
  funext registry decl
  unfold acceptType Contract.checkType
  rw [Contract.ofType_eq_of_isEnabled h]

/-- A class that meets its contract meets it without a reactive library too. -/
theorem Contract.checkType_of_disabled (h : other.reactive.isEnabled = false) {category : Category}
    {decl : TypeDecl} (hcheck : checkType config round category decl = .ok ()) :
    checkType other round category decl = .ok () :=
  checkType_eq_ok_iff.2 (holds_of_disabled h (checkType_eq_ok_iff.1 hcheck))

theorem Survey.ofRound_eq_of_isEnabled
    (h : config.reactive.isEnabled = other.reactive.isEnabled) :
    ofRound config round = ofRound other round := by
  refine ofCategories_congr (fun registry category => ?_) {} Category.all
  rw [Intake.ofCategory, Intake.ofCategory, acceptType_eq_of_isEnabled h]

/-- A category that does not fail is taken up without a reactive library as it is with one. -/
theorem Intake.ofCategory_of_disabled (h : other.reactive.isEnabled = false) {registry : Registry}
    {category : Category} (hfailure : (ofCategory config round registry category).failure = none) :
    ofCategory other round registry category = ofCategory config round registry category :=
  ofCategory_eq_of_failure_eq_none rfl rfl
    (acceptType_of_checkType (Contract.checkType_of_disabled h)) id hfailure

theorem Survey.ofRound_of_disabled (h : other.reactive.isEnabled = false)
    (hfailures : (ofRound config round).failures = []) :
    ofRound other round = ofRound config round :=
  ofCategories_eq_of_failures_eq_nil (Intake.ofCategory_of_disabled h) hfailures

end Intake

/-! ### Accessors of another library -/

/-- The type with another class in the place of its own. -/
def TypeExpr.withClass (name : String) : TypeExpr → TypeExpr
  | .named _ args => .named name args
  | type => type

/-- The member with another class in what it returns. -/
def Java.Member.returning (name : String) (member : Member) : Member :=
  { member with returnType := member.returnType.map (·.withClass name) }

/-- The class with further members behind its own. -/
def Java.ClassDecl.withMembers (decl : ClassDecl) (members : List Member) : ClassDecl :=
  { decl with members := decl.members ++ members }

theorem Java.ClassDecl.withMembers_nil (decl : ClassDecl) : decl.withMembers [] = decl := by
  rw [withMembers, List.append_nil]

namespace Api

variable {config other : Config} {observable otherObservable : String}

theorem accessorsOf_returning (observable otherObservable name : String) (decl : TypeDecl)
    (product : TypeExpr) (containers : List ClassRef) (ctor : ConstructorDecl) :
    accessorsOf otherObservable name decl product containers ctor =
      (accessorsOf observable name decl product containers ctor).map
        (·.returning otherObservable) := by
  unfold accessorsOf
  split
  · rw [List.map_cons, List.map_map]
    rfl
  · rfl

/-- The accessors for one library are those for another one, but for what they return. -/
theorem accessors_returning (h : config.reactive.observable? = some observable)
    (hother : other.reactive.observable? = some otherObservable) (aliasName : String)
    (decl : TypeDecl) (wrappers : List TypeExpr) :
    accessors other aliasName decl wrappers =
      (accessors config aliasName decl wrappers).map
        (Option.map (List.map (·.returning otherObservable))) := by
  unfold accessors
  rw [h, hother]
  cases decl.product? with
  | none => rfl
  | some product =>
      have hlist (refs : List ClassRef) :
          decl.publicConstructors.flatMap
              (accessorsOf otherObservable ("as" ++ aliasName) decl product refs) =
            (decl.publicConstructors.flatMap
              (accessorsOf observable ("as" ++ aliasName) decl product refs)).map
                (·.returning otherObservable) := by
        rw [List.map_flatMap]
        exact List.flatMap_congr fun ctor _ => accessorsOf_returning ..
      dsimp only
      split
      · cases containers decl wrappers with
        | error error => rfl
        | ok refs => exact congrArg (fun own => Except.ok (some own)) (hlist refs)
      · exact congrArg (fun own => Except.ok (some own)) (hlist [])

theorem parserMembers_returning (h : config.reactive.observable? = some observable)
    (hother : other.reactive.observable? = some otherObservable) (parsers : AliasTable) :
    parserMembers other parsers =
      ((parserMembers config parsers).1,
        (parserMembers config parsers).2.map fun members =>
          { members with accessors := members.accessors.map (·.returning otherObservable) }) := by
  induction parsers with
  | nil => rfl
  | cons entry rest ih =>
      obtain ⟨aliasName, decl⟩ := entry
      rw [parserMembers, parserMembers, ih, accessors_returning h hother]
      split
      · rfl
      · cases accessors config aliasName decl decl.wrappers with
        | error error => rfl
        | ok own =>
            cases hrest : (parserMembers config rest).2 with
            | error error => simp [hrest, Except.map]
            | ok members => cases own <;> simp [hrest, Except.map]

theorem wrappers_inMode (mode : Reactive) (taken : List String) (builders : AliasTable) :
    wrappers (config.inMode mode) taken builders = wrappers config taken builders := by
  induction builders generalizing taken with
  | nil => rfl
  | cons entry rest ih =>
      obtain ⟨aliasName, decl⟩ := entry
      rw [wrappers, wrappers, ih]
      rfl

/-- Generation fails in the same way for another library. -/
theorem generate_inMode_of_error {mode : Reactive}
    (h : config.reactive.observable? = some observable)
    (hmode : mode.observable? = some otherObservable) {registry : Registry} {error : ApiError}
    (herror : (generate config registry).2 = .error error) :
    generate (config.inMode mode) registry = generate config registry := by
  unfold generate at herror ⊢
  rw [wrappers_inMode]
  cases hwrappers : wrappers config [] registry.params with
  | error clash => rfl
  | ok wrapperClasses =>
      rw [hwrappers] at herror
      dsimp only at herror ⊢
      rw [@parserMembers_returning config (config.inMode mode) _ _ h hmode]
      -- The members only differ where there are any, and then generation does not fail.
      cases hmembers : (parserMembers config registry.parsers).2 with
      | error clash => rfl
      | ok members =>
          rw [hmembers] at herror
          cases herror

theorem allAccessors_inMode {mode : Reactive} (h : config.reactive.observable? = some observable)
    (hmode : mode.observable? = some otherObservable) (parsers : AliasTable) :
    allAccessors (config.inMode mode) parsers =
      (allAccessors config parsers).map (·.returning otherObservable) := by
  rw [allAccessors, allAccessors, List.map_flatMap]
  refine List.flatMap_congr fun entry _ => ?_
  obtain ⟨aliasName, decl⟩ := entry
  dsimp only
  rw [accessorList, accessorList, @accessors_returning config (config.inMode mode) _ _ h hmode]
  cases accessors config aliasName decl decl.wrappers with
  | error error => rfl
  | ok own => cases own <;> rfl

/-- The entry class of a registry without accessors. -/
def entryWithout (config : Config) (registry : Registry) : ClassDecl :=
  entryClass config registry (allFactories config registry.params) []

/-- The classes for a mode are the same in all modes, but for the accessors at the end of the entry
class. -/
theorem classesOf_inMode (config : Config) (mode : Reactive) (registry : Registry) :
    classesOf (config.inMode mode) registry =
      wrapperClasses config registry.params ++
        [(entryWithout config registry).withMembers
          (allAccessors (config.inMode mode) registry.parsers),
          extensionsOf config registry] := by
  have hentry (accessors : List Java.Member) :
      entryClass config registry (allFactories config registry.params) accessors =
        (entryWithout config registry).withMembers accessors := by
    simp [entryWithout, entryClass, ClassDecl.withMembers]
  rw [← hentry]
  rfl

end Api

/-! ### Rounds -/

namespace Round

variable {config : Config} {round : Round} {mode : Reactive}

/-- A round that is aborted for one library is aborted for another one, with the same reports. -/
theorem outcome_inMode_of_aborted {observable otherObservable : String}
    (h : config.reactive.observable? = some observable)
    (hmode : mode.observable? = some otherObservable)
    (haborted : (round.outcome config).2 = .aborted) :
    round.outcome (config.inMode mode) = round.outcome config := by
  have henabled : (config.inMode mode).reactive.isEnabled = config.reactive.isEnabled := by
    have hother : (config.inMode mode).reactive.observable? = some otherObservable := hmode
    rw [← observable?_isSome, ← observable?_isSome, h, hother]
    rfl
  unfold outcome at haborted ⊢
  rw [Survey.ofRound_eq_of_isEnabled henabled]
  dsimp only at haborted ⊢
  by_cases hfailures : (!(Survey.ofRound config round).failures.isEmpty) = true
  · rw [if_pos hfailures, if_pos hfailures]
  · rw [if_neg hfailures] at haborted
    rw [if_neg hfailures, if_neg hfailures]
    cases hgenerate : (generate config (Survey.ofRound config round).registry).2 with
    | error error => rw [generate_inMode_of_error h hmode hgenerate, hgenerate]
    | ok classes =>
        rw [hgenerate] at haborted
        cases haborted

/-- A round that generates classes generates those of another configuration, with the same reports,
if it is taken up in the same way there and nothing clashes. -/
theorem outcome_of_generated {other : Config} {classes : List ClassDecl}
    (hgenerated : (round.outcome config).2 = .generated classes)
    (hsurvey : Survey.ofRound other round = Survey.ofRound config round)
    (hclear : ¬Clashes other round.registry) :
    round.outcome other =
      ((round.outcome config).1, .generated (classesOf other round.registry)) := by
  have hfailures : round.failures other = [] := by
    have hnone := failures_eq_nil_of_generated hgenerated
    rw [failures, ← (Survey.ofRound_spec _ round).1] at hnone ⊢
    rw [hsurvey, hnone]
  have hother := (outcome_eq_generated_iff hfailures).2 ⟨hclear, rfl⟩
  refine Prod.ext ?_ hother
  rw [reports_of_generated hother, reports_of_generated hgenerated, hsurvey]

end Round

/-- A new session for a reactive library, or for none. -/
def Session.inMode (config : Config) (mode : Reactive) : Session :=
  { config := config.inMode mode }

namespace Session

variable {config : Config} {round : Round}

/-- A new session that is not asked for notes reports on a round what there is to report. -/
theorem process_inMode (hdebug : config.debug = false) (mode : Reactive) (round : Round) :
    (inMode config mode).outcomeOf round = (round.outcome (config.inMode mode)).2 ∧
      (inMode config mode).reportsOf round = (round.outcome (config.inMode mode)).1 := by
  have hskip : (inMode config mode).outcomeOf round ≠ .skipped := by
    simp [outcomeOf_eq_skipped_iff, inMode]
  have hnotes : (inMode config mode).notes round = [] := by
    simp [notes, inMode, Config.inMode, hdebug]
  obtain ⟨houtcome, hreports⟩ := process_of_ne_skipped hskip
  rw [hnotes] at hreports
  exact ⟨houtcome, hreports⟩

/-- The accessors of a round return what the reactive library has for it. -/
theorem returnType_of_mem_allAccessors {observable : String}
    (h : config.reactive.observable? = some observable) {parsers : AliasTable}
    {member : Java.Member} (hmember : member ∈ allAccessors config parsers) :
    ∃ element, member.returnType = some (.named observable [element]) := by
  obtain ⟨⟨aliasName, decl⟩, -, hmember⟩ := List.mem_flatMap.1 hmember
  dsimp only at hmember
  rcases accessorList_cases config aliasName decl with
    hnil | ⟨other, product, hother, -, -, hlist⟩
  · rw [hnil] at hmember
    cases hmember
  · obtain rfl := Option.some.inj (h.symm.trans hother)
    rw [hlist] at hmember
    obtain ⟨ctor, -, hmember⟩ := List.mem_flatMap.1 hmember
    rcases List.mem_cons.1 hmember with rfl | hmember
    · exact ⟨product, rfl⟩
    · split at hmember
      · obtain ⟨container, -, rfl⟩ := List.mem_map.1 hmember
        exact ⟨inContainer container product, rfl⟩
      · cases hmember

/-- A round that generates classes for a library generates them without one too, and only the
accessors are missing. -/
theorem outcomeOf_disabled (hdebug : config.debug = false) {mode : Reactive}
    {classes : List ClassDecl} (h : (inMode config mode).outcomeOf round = .generated classes) :
    (inMode config .disabled).outcomeOf round =
        .generated (wrapperClasses config round.builders ++
          [entryWithout config round.registry, extensionsOf config round.registry]) ∧
      (inMode config .disabled).reportsOf round = (inMode config mode).reportsOf round := by
  obtain ⟨hclear, -⟩ := eq_classesOf_of_outcomeOf h
  have hgenerated := outcome_of_outcomeOf h
  have hnone : (Survey.ofRound (config.inMode mode) round).failures = [] :=
    (Survey.ofRound_spec _ round).1.trans (Round.failures_eq_nil_of_generated hgenerated)
  -- Builders clash in every mode, containers only where there are accessors.
  have hdisabled : ¬Clashes (config.inMode .disabled) round.registry := by
    rintro (hbuilders | ⟨henabled, -⟩)
    · exact hclear (.inl hbuilders)
    · cases henabled
  have hsurvey : Survey.ofRound (config.inMode .disabled) round = _ :=
    Survey.ofRound_of_disabled rfl hnone
  have houtcome := Round.outcome_of_generated hgenerated hsurvey hdisabled
  have hclasses := classesOf_inMode config .disabled round.registry
  rw [allAccessors_of_disabled rfl, ClassDecl.withMembers_nil] at hclasses
  obtain ⟨hother, hreports⟩ := process_inMode hdebug .disabled round
  rw [hother, hreports, houtcome, (process_inMode hdebug mode round).2]
  exact ⟨congrArg Outcome.generated hclasses, rfl⟩

/-- What a round generates for one library it generates for the other one, with another class in
what accessors return. -/
theorem outcomeOf_rxJava3 (hdebug : config.debug = false) {classes : List ClassDecl}
    (h : (inMode config .rxJava2).outcomeOf round = .generated classes) :
    (inMode config .rxJava3).outcomeOf round =
        .generated (wrapperClasses config round.builders ++
          [(entryWithout config round.registry).withMembers
            ((allAccessors (config.inMode .rxJava2) round.parsers).map
              (·.returning "io.reactivex.rxjava3.core.Observable")),
            extensionsOf config round.registry]) ∧
      (inMode config .rxJava3).reportsOf round = (inMode config .rxJava2).reportsOf round := by
  obtain ⟨hclear, -⟩ := eq_classesOf_of_outcomeOf h
  have hgenerated := outcome_of_outcomeOf h
  have hsurvey : Survey.ofRound (config.inMode .rxJava3) round =
      Survey.ofRound (config.inMode .rxJava2) round :=
    Survey.ofRound_eq_of_isEnabled rfl
  have hother : ¬Clashes (config.inMode .rxJava3) round.registry := hclear
  have houtcome := Round.outcome_of_generated hgenerated hsurvey hother
  have haccessors : allAccessors (config.inMode .rxJava3) round.registry.parsers = _ :=
    @allAccessors_inMode (config.inMode .rxJava2) _ _ .rxJava3 rfl rfl round.parsers
  have hclasses := classesOf_inMode config .rxJava3 round.registry
  rw [haccessors] at hclasses
  obtain ⟨hother, hreports⟩ := process_inMode hdebug .rxJava3 round
  rw [hother, hreports, houtcome, (process_inMode hdebug .rxJava2 round).2]
  exact ⟨congrArg Outcome.generated hclasses, rfl⟩

/-- **What reactive mode has an effect on.** If a round generates classes for a reactive library, it
generates the same ones without a library, with the same reports, except that the accessors of the
parsers are missing at the end of the entry class. For either library the reports are the same, and
so are the outcomes, except for the class that the accessors return. -/
theorem outcomeOf_inMode (config : Config) (round : Round) (hdebug : config.debug = false) :
    (∀ mode classes, (inMode config mode).outcomeOf round = .generated classes →
      ∃ (wrapperClasses : List ClassDecl) (entry extensions : ClassDecl),
        entry.name = "RxHttp" ∧
        classes = wrapperClasses ++
          [entry.withMembers (round.parsers.flatMap fun (aliasName, decl) =>
            accessorList (config.inMode mode) aliasName decl), extensions] ∧
        (inMode config .disabled).outcomeOf round =
          .generated (wrapperClasses ++ [entry, extensions]) ∧
        (inMode config .disabled).reportsOf round = (inMode config mode).reportsOf round) ∧
    (inMode config .rxJava3).reportsOf round = (inMode config .rxJava2).reportsOf round ∧
    ((inMode config .rxJava2).outcomeOf round = .aborted ∧
        (inMode config .rxJava3).outcomeOf round = .aborted ∨
      ∃ (wrapperClasses : List ClassDecl) (entry extensions : ClassDecl)
        (accessors : List Java.Member),
        entry.name = "RxHttp" ∧
        accessors = (round.parsers.flatMap fun (aliasName, decl) =>
          accessorList (config.inMode .rxJava2) aliasName decl) ∧
        (∀ accessor ∈ accessors, ∃ element,
          accessor.returnType = some (.named "io.reactivex.Observable" [element])) ∧
        (inMode config .rxJava2).outcomeOf round =
          .generated (wrapperClasses ++ [entry.withMembers accessors, extensions]) ∧
        (inMode config .rxJava3).outcomeOf round =
          .generated (wrapperClasses ++
            [entry.withMembers
              (accessors.map (·.returning "io.reactivex.rxjava3.core.Observable")),
              extensions])) := by
  have hname : (entryWithout config round.registry).name = "RxHttp" := rfl
  constructor
  · intro mode classes h
    obtain ⟨houtcome, hreports⟩ := outcomeOf_disabled hdebug h
    obtain ⟨-, heq⟩ := eq_classesOf_of_outcomeOf h
    exact ⟨_, _, _, hname, heq.trans (classesOf_inMode config mode round.registry), houtcome,
      hreports⟩
  · cases h : (inMode config .rxJava2).outcomeOf round with
    | generated classes =>
        obtain ⟨houtcome, hreports⟩ := outcomeOf_rxJava3 hdebug h
        obtain ⟨-, heq⟩ := eq_classesOf_of_outcomeOf h
        refine ⟨hreports, .inr ⟨_, _, _, _, hname, rfl, ?_, ?_, houtcome⟩⟩
        · exact fun accessor => returnType_of_mem_allAccessors rfl
        · rw [heq]
          exact congrArg Outcome.generated (classesOf_inMode config .rxJava2 round.registry)
    | aborted =>
        obtain ⟨houtcome2, hreports2⟩ := process_inMode hdebug .rxJava2 round
        obtain ⟨houtcome3, hreports3⟩ := process_inMode hdebug .rxJava3 round
        have hsame : round.outcome (config.inMode .rxJava3) =
            round.outcome (config.inMode .rxJava2) :=
          @Round.outcome_inMode_of_aborted (config.inMode .rxJava2) round .rxJava3 _ _ rfl rfl
            (houtcome2.symm.trans h)
        rw [hreports2, hreports3, houtcome3, hsame, ← houtcome2]
        exact ⟨rfl, .inl ⟨rfl, h⟩⟩
    | skipped => simp [outcomeOf_eq_skipped_iff, inMode] at h

theorem outcomeOf_inMode_sampleRound :
    ({} : Config).debug = false ∧
      (∃ classes, (inMode {} .rxJava3).outcomeOf sampleRound = .generated classes) ∧
      (sampleRound.parsers.flatMap fun (aliasName, decl) =>
        accessorList (Config.inMode {} .rxJava3) aliasName decl).map (·.name) =
          ["asPage", "asPageList"] ∧
      (∃ classes, (inMode {} .disabled).outcomeOf sampleRound = .generated classes) ∧
      (inMode {} .disabled).reportsOf sampleRound = (inMode {} .rxJava3).reportsOf sampleRound := by
  have hgenerated : (inMode {} .rxJava3).outcomeOf sampleRound = _ := outcomeOf_sampleRound
  obtain ⟨_, _, _, -, -, houtcome, hreports⟩ :=
    (outcomeOf_inMode {} sampleRound rfl).1 .rxJava3 _ hgenerated
  exact ⟨rfl, ⟨_, hgenerated⟩, by decide, ⟨_, houtcome⟩, hreports⟩

end Session

end FluentHttp
