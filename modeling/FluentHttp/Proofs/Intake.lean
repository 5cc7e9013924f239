import FluentHttp.Intake

/-!
# FluentHttp.Proofs.Intake

Which errors the intake of a round ends with. `Round.failure?` says of each category, by itself and
without a registry, which of its declarations is the first to break a rule. The survey of all
categories finds just these failures (`Survey.ofCategories_spec`).

The one rule that looks beyond a declaration is that there is one default base URL. The registry
remembers whether there has been one; `Round.failure?` counts positions instead. The two agree as
long as the slot is free before the first field of the category (`SlotTaken`).
-/

namespace FluentHttp

/-! ### The first broken rule -/

/-- Builders and parsers need an alias. -/
def lacksAlias (category : Category) (decl : TypeDecl) : Bool :=
  !category.isField && (decl.aliasName?.getD "").isEmpty

/-- The error about a declaration that breaks a rule. -/
def contractError (category : Category) (declaration : String) (violation : Violation) :
    ContractError :=
  { category, declaration, violation }

namespace Round

/-- The first rule that a class breaks as a member of a category: a clause of the contract, or else
that there is an alias. -/
def typeError? (config : Config) (round : Round) (category : Category) (decl : TypeDecl) :
    Option ContractError :=
  ((Clause.firstBroken? (Contract.ofType config round decl category)).or
    (if lacksAlias category decl then some .emptyAlias else none)).map
      (contractError category decl.name)

/-- The first rule that a field breaks as a member of a category, where it stands at a given
position: a clause of the contract, or else that it is not a second default base URL. -/
def fieldError? (round : Round) (category : Category) (field : FieldDecl) (position : Nat) :
    Option ContractError :=
  ((Clause.firstBroken? (Contract.ofField round field category)).or
    (if category = .defaultDomain ∧ 0 < position then
      some (.duplicateDefaultDomain (round.annotatedFields .defaultDomain).length)
    else none)).map (contractError category field.qualifiedName)

/-- The failure of a category: the error about its first declaration that breaks a rule, classes
before fields. -/
def failure? (config : Config) (round : Round) (category : Category) : Option ContractError :=
  ((round.annotatedTypes category).findSome? (round.typeError? config category)).or
    ((round.annotatedFields category).zipIdx.findSome? fun (field, position) =>
      round.fieldError? category field position)

end Round

/-- No error is among the diagnostics. -/
def NoErrors (reports : List Diagnostic) : Prop :=
  ∀ d ∈ reports, d.isError = false

theorem NoErrors.append {ds es : List Diagnostic} (hds : NoErrors ds) (hes : NoErrors es) :
    NoErrors (ds ++ es) := by
  simpa [NoErrors, or_imp, forall_and] using ⟨hds, hes⟩

theorem NoErrors.filter_eq_nil {ds : List Diagnostic} (h : NoErrors ds) :
    ds.filter (·.isError) = [] := by
  simpa [NoErrors] using h

/-! ### One declaration -/

theorem Registry.noErrors_replacements (aliasName : String) (decl : TypeDecl)
    (table : AliasTable) : NoErrors (replacements aliasName decl table) := by
  intro d hd
  obtain ⟨previous, -, rfl⟩ := List.mem_map.1 hd
  rfl

theorem Registry.aliasOf_eq (category : Category) (decl : TypeDecl) :
    aliasOf category decl =
      if (decl.aliasName?.getD "").isEmpty then
        .error (contractError category decl.name .emptyAlias)
      else .ok (decl.aliasName?.getD "") := by
  rw [aliasOf]
  cases decl.aliasName? with
  | none => rfl
  | some name => by_cases hname : name.isEmpty <;> simp [Option.filter, hname, contractError]

/-- Accepting a declaration leads to the given error or, if there is none, to a registry with the
given property, and then no error is reported. -/
def Acceptance.LeadsTo (acceptance : Acceptance) (error? : Option ContractError)
    (P : Registry → Prop) : Prop :=
  match error? with
  | some error => acceptance = .error error
  | none =>
    ∃ registry reports, acceptance = .ok (registry, reports) ∧ P registry ∧ NoErrors reports

/-- Registering a class is refused if it has no alias. The table that takes the class is no matter
to the slot of the default base URL. -/
theorem register_leadsTo {category : Category} (hclass : category.isField = false)
    (registry : Registry) (decl : TypeDecl) (table : AliasTable) (put : String → Registry)
    (hput : ∀ aliasName, (put aliasName).defaultDomain = registry.defaultDomain) :
    Acceptance.LeadsTo
      (do
        let aliasName ← Registry.aliasOf category decl
        return (put aliasName, Registry.replacements aliasName decl table))
      ((if lacksAlias category decl then some .emptyAlias else none).map
        (contractError category decl.name))
      fun taken => taken.defaultDomain = registry.defaultDomain := by
  have halias : lacksAlias category decl = (decl.aliasName?.getD "").isEmpty := by
    simp [lacksAlias, hclass]
  rw [Registry.aliasOf_eq, halias]
  by_cases hempty : (decl.aliasName?.getD "").isEmpty = true
  · rw [if_pos hempty, if_pos hempty]
    rfl
  · rw [if_neg hempty, if_neg hempty]
    exact ⟨_, _, rfl, hput _, Registry.noErrors_replacements _ _ _⟩

/-- A class is refused with its first broken rule. The slot of the default base URL stays as it
is. -/
theorem acceptType_leadsTo (config : Config) (round : Round) (category : Category)
    (registry : Registry) (decl : TypeDecl) :
    (acceptType config round category registry decl).LeadsTo
      (round.typeError? config category decl)
      fun taken => taken.defaultDomain = registry.defaultDomain := by
  unfold Round.typeError? acceptType Contract.checkType
  cases hclause : Clause.firstBroken? (Contract.ofType config round decl category) with
  | some violation => rfl
  | none =>
      -- a category of fields has a clause that every class breaks
      cases category with
      | param => exact register_leadsTo rfl registry decl registry.params _ fun _ => rfl
      | parser => exact register_leadsTo rfl registry decl registry.parsers _ fun _ => rfl
      | converter | okClient | domain | defaultDomain =>
          simp [Contract.ofType, Clause.firstBroken?] at hclause

/-- The slot of the default base URL is taken exactly if fields of that category have been accepted,
`position` of them. -/
def SlotTaken (category : Category) (position : Nat) (registry : Registry) : Prop :=
  registry.defaultDomain.isSome ↔ category = .defaultDomain ∧ 0 < position

theorem slotTaken_of_ne {category : Category} (h : category ≠ .defaultDomain) {position : Nat}
    {registry : Registry} :
    SlotTaken category position registry ↔ registry.defaultDomain = none := by
  simp [SlotTaken, h]

/-- A field is refused with its first broken rule. -/
theorem acceptField_leadsTo (round : Round) {category : Category} {registry : Registry}
    {position : Nat} (field : FieldDecl) (hslot : SlotTaken category position registry) :
    (acceptField round category registry field).LeadsTo
      (round.fieldError? category field position) (SlotTaken category (position + 1)) := by
  unfold Round.fieldError? acceptField Contract.checkField
  cases hclause : Clause.firstBroken? (Contract.ofField round field category) with
  | some violation => rfl
  | none =>
      dsimp only [bind, Except.bind]
      cases category with
      | param | parser => simp [Contract.ofField, Clause.firstBroken?] at hclause
      | converter | okClient | domain =>
          rw [slotTaken_of_ne (by simp)] at hslot
          exact ⟨_, _, rfl, (slotTaken_of_ne (by simp)).2 hslot, by simp [NoErrors]⟩
      | defaultDomain =>
          cases hdefault : registry.defaultDomain with
          | some first =>
              have hposition : 0 < position := by simpa [SlotTaken, hdefault] using hslot
              simp [Acceptance.LeadsTo, Registry.setDefaultDomain, hdefault, hposition,
                contractError]
          | none =>
              have hposition : position = 0 := by simpa [SlotTaken, hdefault] using hslot
              rw [if_neg (by omega), Registry.setDefaultDomain, hdefault]
              exact ⟨_, _, rfl, by simp [SlotTaken], by simp [NoErrors]⟩

/-! ### One category -/

/-- The error that a list of declarations ends with, by their positions. -/
theorem Intake.ofList_spec {α : Type} {accept : Registry → α → Acceptance}
    (error? : α → Nat → Option ContractError) (P : Nat → Registry → Prop)
    (haccept : ∀ position registry decl, P position registry →
      (accept registry decl).LeadsTo (error? decl position) (P (position + 1)))
    (position : Nat) {registry : Registry} (hP : P position registry) (decls : List α) :
    (ofList accept registry decls).failure =
        (decls.zipIdx position).findSome? (fun (decl, i) => error? decl i) ∧
      NoErrors (ofList accept registry decls).reports ∧
      ∃ i, P i (ofList accept registry decls).registry := by
  induction decls generalizing position registry with
  | nil => exact ⟨rfl, by simp [ofList, NoErrors], position, hP⟩
  | cons decl rest ih =>
      have hdecl := haccept position registry decl hP
      rw [ofList, List.zipIdx_cons]
      cases herror : error? decl position with
      | some error =>
          rw [herror, Acceptance.LeadsTo] at hdecl
          rw [hdecl]
          exact ⟨by simp [herror], by simp [NoErrors], position, hP⟩
      | none =>
          rw [herror] at hdecl
          obtain ⟨taken, reports, hok, htaken, hreports⟩ := hdecl
          obtain ⟨hfailure, hothers, hrest⟩ := ih (position + 1) htaken
          rw [hok]
          exact ⟨by simp [herror, hfailure], hreports.append hothers, hrest⟩

theorem findSome?_zipIdx {α β : Type} (f : α → Option β) (position : Nat) (xs : List α) :
    (xs.zipIdx position).findSome? (fun (x, _) => f x) = xs.findSome? f := by
  induction xs generalizing position with
  | nil => rfl
  | cons x xs ih => simp [List.zipIdx_cons, List.findSome?_cons, ih]

theorem Intake.ofTypes_spec (config : Config) (round : Round) (category : Category)
    (registry : Registry) (decls : List TypeDecl) :
    (ofList (acceptType config round category) registry decls).failure =
        decls.findSome? (round.typeError? config category) ∧
      NoErrors (ofList (acceptType config round category) registry decls).reports ∧
      (ofList (acceptType config round category) registry decls).registry.defaultDomain =
        registry.defaultDomain := by
  have haccept : ∀ (position : Nat) (current : Registry) (decl : TypeDecl),
      current.defaultDomain = registry.defaultDomain →
      (acceptType config round category current decl).LeadsTo
        (round.typeError? config category decl)
        fun taken => taken.defaultDomain = registry.defaultDomain := by
    intro position current decl hcurrent
    exact hcurrent ▸ acceptType_leadsTo config round category current decl
  obtain ⟨hfailure, hreports, -, hslot⟩ :=
    ofList_spec (fun decl _ => round.typeError? config category decl)
      (fun _ taken => taken.defaultDomain = registry.defaultDomain) haccept 0 rfl decls
  exact ⟨hfailure.trans (findSome?_zipIdx _ 0 decls), hreports, hslot⟩

/-- A category ends with its failure and reports no error by itself. Only the fields of the default
base URL take its slot. -/
theorem Intake.ofCategory_spec (config : Config) (round : Round) (category : Category)
    {registry : Registry} (hslot : registry.defaultDomain = none) :
    (ofCategory config round registry category).failure = round.failure? config category ∧
      NoErrors (ofCategory config round registry category).reports ∧
      (category ≠ .defaultDomain →
        (ofCategory config round registry category).registry.defaultDomain = none) := by
  obtain ⟨htypes, htypeReports, htypeSlot⟩ :=
    ofTypes_spec config round category registry (round.annotatedTypes category)
  rw [hslot] at htypeSlot
  unfold ofCategory Round.failure?
  rw [← htypes]
  dsimp only
  cases hfailure : (ofList (acceptType config round category) registry
      (round.annotatedTypes category)).failure with
  | some error => exact ⟨hfailure, htypeReports, fun _ => htypeSlot⟩
  | none =>
      -- the slot is still free where the fields start
      have hfree : SlotTaken category 0
          (ofList (acceptType config round category) registry
            (round.annotatedTypes category)).registry := by
        simp [SlotTaken, htypeSlot]
      obtain ⟨hfields, hfieldReports, last, hlast⟩ :=
        ofList_spec (round.fieldError? category) (SlotTaken category)
          (fun _ _ field hslot => acceptField_leadsTo round field hslot) 0 hfree
          (round.annotatedFields category)
      exact ⟨hfields, htypeReports.append hfieldReports,
        fun hne => (slotTaken_of_ne hne).1 hlast⟩

/-! ### The default base URL

No contract has a clause about other declarations, so that there is a second default base URL can
only be the fields of that category. -/

theorem Contract.ofType_ne_duplicate (config : Config) (round : Round) (decl : TypeDecl)
    (category : Category) (count : Nat) :
    ∀ clause ∈ ofType config round decl category,
      clause.violation ≠ .duplicateDefaultDomain count := by
  cases category with
  | param => simp [ofType, concrete, inherits]
  | parser => by_cases h : decl.isGeneric <;> simp [ofType, concrete, inherits, genericParser, h]
  | converter | okClient | domain | defaultDomain => simp [ofType]

theorem Contract.ofField_ne_duplicate (round : Round) (field : FieldDecl) (category : Category)
    (count : Nat) :
    ∀ clause ∈ ofField round field category,
      clause.violation ≠ .duplicateDefaultDomain count := by
  cases category <;> simp [ofField, shared]

theorem Clause.firstBroken?_ne {clauses : List Clause} {violation : Violation}
    (h : ∀ clause ∈ clauses, clause.violation ≠ violation) :
    firstBroken? clauses ≠ some violation := by
  intro hbroken
  obtain ⟨clause, hclause, hviolation⟩ := Option.map_eq_some_iff.1 hbroken
  exact h clause (List.mem_of_find?_eq_some hclause) hviolation

theorem Round.typeError?_ne_duplicate {config : Config} {round : Round} {category : Category}
    {decl : TypeDecl} {error : ContractError}
    (h : round.typeError? config category decl = some error) (count : Nat) :
    error.violation ≠ .duplicateDefaultDomain count := by
  obtain ⟨violation, hviolation, rfl⟩ := Option.map_eq_some_iff.1 h
  rintro (rfl : violation = _)
  rcases Option.or_eq_some_iff.1 hviolation with hclause | ⟨-, halias⟩
  · exact Clause.firstBroken?_ne (Contract.ofType_ne_duplicate _ _ _ _ _) hclause
  · split at halias <;> cases halias

theorem Round.eq_of_fieldError?_duplicate {round : Round} {category : Category}
    {field : FieldDecl} {position : Nat} {error : ContractError}
    (h : round.fieldError? category field position = some error) {count : Nat}
    (hduplicate : error.violation = .duplicateDefaultDomain count) :
    category = .defaultDomain ∧ count = (round.annotatedFields .defaultDomain).length := by
  obtain ⟨violation, hviolation, rfl⟩ := Option.map_eq_some_iff.1 h
  obtain rfl : violation = _ := hduplicate
  rcases Option.or_eq_some_iff.1 hviolation with hclause | ⟨-, hposition⟩
  · exact absurd hclause (Clause.firstBroken?_ne (Contract.ofField_ne_duplicate _ _ _ _))
  · split at hposition
    · next hsecond =>
        cases hposition
        exact ⟨hsecond.1, rfl⟩
    · cases hposition

/-- A second default base URL is a failure of its own category, and all of them are counted. -/
theorem Round.eq_of_failure?_duplicate {config : Config} {round : Round} {category : Category}
    {error : ContractError} (h : round.failure? config category = some error) {count : Nat}
    (hduplicate : error.violation = .duplicateDefaultDomain count) :
    category = .defaultDomain ∧ count = (round.annotatedFields .defaultDomain).length := by
  rcases Option.or_eq_some_iff.1 h with htype | ⟨-, hfield⟩
  · obtain ⟨decl, -, herror⟩ := List.exists_of_findSome?_eq_some htype
    exact absurd hduplicate (typeError?_ne_duplicate herror count)
  · obtain ⟨⟨field, position⟩, -, herror⟩ := List.exists_of_findSome?_eq_some hfield
    exact eq_of_fieldError?_duplicate herror hduplicate

theorem Round.eq_defaultDomain_of_isFatal {config : Config} {round : Round} {category : Category}
    {error : ContractError} (h : round.failure? config category = some error)
    (hfatal : error.isFatal = true) : category = .defaultDomain := by
  rw [ContractError.isFatal] at hfatal
  split at hfatal
  · next hduplicate => exact (eq_of_failure?_duplicate h hduplicate).1
  · cases hfatal

/-! ### All categories -/

/-- The survey finds the failures of all categories, in order, and reports them and no other error.
A failure that ends the round cuts nothing off, as its category is the last one. -/
theorem Survey.ofCategories_spec (config : Config) (round : Round) {categories : List Category}
    (hlast : categories.Pairwise fun category _ => category ≠ .defaultDomain)
    {registry : Registry} (hslot : registry.defaultDomain = none) :
    (ofCategories config round registry categories).failures =
        categories.filterMap (round.failure? config) ∧
      (ofCategories config round registry categories).reports.filter (·.isError) =
        (categories.filterMap (round.failure? config)).map (·.toDiagnostic) := by
  induction categories generalizing registry with
  | nil => exact ⟨rfl, rfl⟩
  | cons category rest ih =>
      obtain ⟨hnext, hrest⟩ := List.pairwise_cons.1 hlast
      obtain ⟨hfailure, hreports, hkept⟩ := Intake.ofCategory_spec config round category hslot
      -- behind the default base URL, whose slot may be taken, there is no category
      have hothers :
          (ofCategories config round (Intake.ofCategory config round registry category).registry
              rest).failures = rest.filterMap (round.failure? config) ∧
            (ofCategories config round (Intake.ofCategory config round registry category).registry
              rest).reports.filter (·.isError) =
                (rest.filterMap (round.failure? config)).map (·.toDiagnostic) := by
        by_cases hcategory : category = .defaultDomain
        · cases rest with
          | nil => exact ⟨rfl, rfl⟩
          | cons next _ => exact absurd hcategory (hnext next (by simp))
        · exact ih hrest (hkept hcategory)
      rw [ofCategories, List.filterMap_cons, ← hfailure]
      dsimp only
      cases herror : (Intake.ofCategory config round registry category).failure with
      | none =>
          refine ⟨hothers.1, ?_⟩
          rw [List.filter_append, hreports.filter_eq_nil, hothers.2]
          rfl
      | some error =>
          have hown : ((Intake.ofCategory config round registry category).reports ++
              [error.toDiagnostic]).filter (·.isError) = [error.toDiagnostic] := by
            rw [List.filter_append, hreports.filter_eq_nil]
            rfl
          by_cases hfatal : error.isFatal
          · -- nothing comes behind the category of a fatal failure
            have hcategory : category = .defaultDomain :=
              Round.eq_defaultDomain_of_isFatal (hfailure.symm.trans herror) hfatal
            obtain rfl : rest = [] := by
              cases rest with
              | nil => rfl
              | cons next _ => exact absurd hcategory (hnext next (by simp))
            simp [hfatal, hown]
          · simp only [hfatal]
            refine ⟨by simp [hothers.1], ?_⟩
            simp only [Bool.false_eq_true, if_false]
            rw [List.filter_append, hown, hothers.2]
            rfl

theorem Survey.ofRound_spec (config : Config) (round : Round) :
    (ofRound config round).failures = Category.all.filterMap (round.failure? config) ∧
      (ofRound config round).reports.filter (·.isError) =
        (Category.all.filterMap (round.failure? config)).map (·.toDiagnostic) :=
  ofCategories_spec config round (by decide) rfl

/-! ### Two surveys -/

/-- Surveys that take up each category alike are alike. -/
theorem Survey.ofCategories_congr {config otherConfig : Config} {round other : Round}
    (hintake : ∀ registry category, Intake.ofCategory config round registry category =
      Intake.ofCategory otherConfig other registry category)
    (registry : Registry) (categories : List Category) :
    ofCategories config round registry categories =
      ofCategories otherConfig other registry categories := by
  induction categories generalizing registry with
  | nil => rfl
  | cons category rest ih =>
      rw [ofCategories, ofCategories, hintake]
      simp only [ih]

section NoMoreDemanded

variable {config otherConfig : Config} {round other : Round}

/-- A class that is accepted is accepted, with the same effect, wherever it meets its contract. -/
theorem acceptType_of_checkType {category : Category} {decl : TypeDecl}
    (hcheck : Contract.checkType config round category decl = .ok () →
      Contract.checkType otherConfig other category decl = .ok ())
    {registry : Registry} {result : Registry × List Diagnostic}
    (haccept : acceptType config round category registry decl = .ok result) :
    acceptType otherConfig other category registry decl = .ok result := by
  unfold acceptType at haccept ⊢
  cases hown : Contract.checkType config round category decl with
  | error error =>
      rw [hown] at haccept
      cases haccept
  | ok _ =>
      rw [hown] at haccept
      rw [hcheck hown]
      exact haccept

/-- The same goes for a field. How many default base URLs there are is counted for the error about
a second one. -/
theorem acceptField_of_checkField {category : Category} {field : FieldDecl}
    (hfields : other.annotatedFields .defaultDomain = round.annotatedFields .defaultDomain)
    (hcheck : Contract.checkField round category field = .ok () →
      Contract.checkField other category field = .ok ())
    {registry : Registry} {result : Registry × List Diagnostic}
    (haccept : acceptField round category registry field = .ok result) :
    acceptField other category registry field = .ok result := by
  unfold acceptField at haccept ⊢
  cases hown : Contract.checkField round category field with
  | error error =>
      rw [hown] at haccept
      cases haccept
  | ok _ =>
      rw [hown] at haccept
      rw [hcheck hown, hfields]
      exact haccept

/-- Declarations that are all accepted are accepted where no more is demanded. -/
theorem Intake.ofList_eq_of_failure_eq_none {α : Type}
    {accept otherAccept : Registry → α → Acceptance}
    (haccept : ∀ {registry decl result},
      accept registry decl = .ok result → otherAccept registry decl = .ok result)
    {registry : Registry} {decls : List α} (h : (ofList accept registry decls).failure = none) :
    ofList otherAccept registry decls = ofList accept registry decls := by
  induction decls generalizing registry with
  | nil => rfl
  | cons decl rest ih =>
      rw [ofList] at h
      rw [ofList, ofList]
      cases haccepted : accept registry decl with
      | error error =>
          rw [haccepted] at h
          cases h
      | ok result =>
          rw [haccepted] at h
          rw [haccept haccepted]
          dsimp only at h ⊢
          rw [ih h]

/-- A category that does not fail is taken up alike where the same declarations are annotated with
it and no more is demanded of them. -/
theorem Intake.ofCategory_eq_of_failure_eq_none {category : Category}
    (htypes : other.annotatedTypes category = round.annotatedTypes category)
    (hfields : other.annotatedFields category = round.annotatedFields category)
    (hacceptType : ∀ {registry decl result},
      acceptType config round category registry decl = .ok result →
        acceptType otherConfig other category registry decl = .ok result)
    (hacceptField : ∀ {registry field result},
      acceptField round category registry field = .ok result →
        acceptField other category registry field = .ok result)
    {registry : Registry} (h : (ofCategory config round registry category).failure = none) :
    ofCategory otherConfig other registry category = ofCategory config round registry category := by
  unfold ofCategory at h ⊢
  rw [htypes, hfields]
  dsimp only at h ⊢
  cases hfailure : (ofList (acceptType config round category) registry
      (round.annotatedTypes category)).failure with
  | some error =>
      simp only [hfailure] at h
      cases h
  | none =>
      simp only [hfailure] at h
      rw [ofList_eq_of_failure_eq_none hacceptType hfailure]
      simp only [hfailure]
      rw [ofList_eq_of_failure_eq_none hacceptField h]

/-- A survey without failures stays as it is where no more is demanded. -/
theorem Survey.ofCategories_eq_of_failures_eq_nil
    (hintake : ∀ {registry category},
      (Intake.ofCategory config round registry category).failure = none →
        Intake.ofCategory otherConfig other registry category =
          Intake.ofCategory config round registry category)
    {registry : Registry} {categories : List Category}
    (h : (ofCategories config round registry categories).failures = []) :
    ofCategories otherConfig other registry categories =
      ofCategories config round registry categories := by
  induction categories generalizing registry with
  | nil => rfl
  | cons category rest ih =>
      rw [ofCategories] at h
      rw [ofCategories, ofCategories]
      dsimp only at h ⊢
      cases hfailure : (Intake.ofCategory config round registry category).failure with
      | some error =>
          simp only [hfailure] at h
          split at h <;> cases h
      | none =>
          simp only [hfailure] at h
          simp only [hintake hfailure, hfailure, ih h]

end NoMoreDemanded

end FluentHttp
