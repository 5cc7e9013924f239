import FluentHttp.Proofs.Generated
import FluentHttp.Proofs.Interleaving

/-!
# FluentHttp.Proofs.ContextTypes

Classes without an annotation are there to be walked through. Behind the classes of a round that
generates they add nothing, whatever they declare (`Session.process_withTypes`).

They can only add chains of supertypes. A class that the round declares itself keeps its own
declaration, as the first one of a name counts, so that what reaches a marker goes on reaching it.
As no contract has a clause that a marker be out of reach, whatever meets its contract goes on
meeting it, and nothing after the contracts looks at classes without an annotation.
-/

namespace FluentHttp

open Api

namespace Round

/-- The round with further classes behind its own. -/
def withTypes (round : Round) (context : List TypeDecl) : Round :=
  { round with types := round.types ++ context }

/-! ### Chains of supertypes -/

section Reaches

variable (round : Round) (context : List TypeDecl)

/-- A reference that leads to a marker leads there past further classes, even if these have names
that are taken. -/
theorem leadsTo_withTypes {marker : LibraryType} {ref : ClassRef}
    (h : LeadsTo round.types marker ref) : LeadsTo (round.withTypes context).types marker ref := by
  refine h.mono fun name decl _ hdecl => ?_
  rw [withTypes, List.find?_append, hdecl]
  rfl

theorem declReaches_withTypes {decl : TypeDecl} {marker : LibraryType}
    (h : round.declReaches decl marker = true) :
    (round.withTypes context).declReaches decl marker = true := by
  obtain ⟨ref, href, hleads⟩ := leadTo_eq_true_iff.1 h
  exact leadTo_eq_true_iff.2 ⟨ref, href, round.leadsTo_withTypes context hleads⟩

theorem typeReaches_withTypes {type : TypeExpr} {marker : LibraryType}
    (h : round.typeReaches type marker = true) :
    (round.withTypes context).typeReaches type marker = true := by
  obtain ⟨ref, href, hleads⟩ := leadTo_eq_true_iff.1 h
  exact leadTo_eq_true_iff.2 ⟨ref, href, round.leadsTo_withTypes context hleads⟩

end Reaches

/-! ### Annotated declarations -/

section Annotated

variable (round : Round) {context : List TypeDecl}

theorem annotatedTypes_withTypes (h : ∀ decl ∈ context, decl.annotation = none)
    (category : Category) :
    (round.withTypes context).annotatedTypes category = round.annotatedTypes category := by
  have hnone : context.filter (·.category? == some category) = [] := by
    refine List.filter_eq_nil_iff.2 fun decl hdecl => ?_
    simp [TypeDecl.category?, h decl hdecl]
  rw [annotatedTypes, withTypes, List.filter_append, hnone, List.append_nil]
  rfl

theorem isEmpty_withTypes (h : ∀ decl ∈ context, decl.annotation = none) :
    (round.withTypes context).isEmpty = round.isEmpty := by
  have hnone : context.countP (fun decl => decl.annotation.isSome) = 0 := by
    refine List.countP_eq_zero.2 fun decl hdecl => ?_
    simp [h decl hdecl]
  rw [isEmpty, annotatedCount, withTypes, List.countP_append, hnone, Nat.add_zero]
  rfl

end Annotated

end Round

/-! ### Contracts -/

section Contract

variable {round : Round} {category : Category}

/-- A class that meets its contract meets it among further classes. -/
theorem Contract.checkType_withTypes (context : List TypeDecl) {config : Config} {decl : TypeDecl}
    (h : checkType config round category decl = .ok ()) :
    checkType config (round.withTypes context) category decl = .ok () := by
  rw [checkType_eq_ok_iff] at h ⊢
  cases category with
  | param | parser =>
      -- The last clause is the only one that knows the round.
      simp only [ofType, List.forall_mem_append, List.forall_mem_singleton] at h ⊢
      exact ⟨h.1, round.declReaches_withTypes context h.2⟩
  | converter | okClient | domain | defaultDomain => exact h

/-- A field that meets its contract meets it among further classes. -/
theorem Contract.checkField_withTypes (context : List TypeDecl) {field : FieldDecl}
    (h : checkField round category field = .ok ()) :
    checkField (round.withTypes context) category field = .ok () := by
  rw [checkField_eq_ok_iff] at h ⊢
  cases category with
  | converter =>
      simp only [ofField, List.forall_mem_append, List.forall_mem_singleton] at h ⊢
      exact ⟨h.1, round.typeReaches_withTypes context h.2⟩
  | param | parser | okClient | domain | defaultDomain => exact h

end Contract

/-! ### What a round leads to -/

section Outcome

variable {config : Config} {round : Round} {context : List TypeDecl}

/-- A round that breaks no contract is taken in alike with further classes. -/
theorem Survey.ofRound_withTypes (hcontext : ∀ decl ∈ context, decl.annotation = none)
    (hfailures : (ofRound config round).failures = []) :
    ofRound config (round.withTypes context) = ofRound config round := by
  have hfields (category : Category) :
      (round.withTypes context).annotatedFields category = round.annotatedFields category := rfl
  refine ofCategories_eq_of_failures_eq_nil (fun {_ category} hfailure => ?_) hfailures
  exact Intake.ofCategory_eq_of_failure_eq_none (round.annotatedTypes_withTypes hcontext category)
    (hfields category) (acceptType_of_checkType (Contract.checkType_withTypes context))
    (acceptField_of_checkField (hfields .defaultDomain) (Contract.checkField_withTypes context))
    hfailure

theorem Round.outcome_withTypes (hcontext : ∀ decl ∈ context, decl.annotation = none)
    {classes : List Java.ClassDecl} (h : (round.outcome config).2 = .generated classes) :
    (round.withTypes context).outcome config = round.outcome config := by
  have hfailures : (Survey.ofRound config round).failures = [] :=
    (Survey.ofRound_spec config round).1.trans (failures_eq_nil_of_generated h)
  rw [outcome, outcome, Survey.ofRound_withTypes hcontext hfailures]

end Outcome

namespace Session

/-- **Further classes without an annotation change nothing.** If a round leads to classes, then it
leads to the same classes, with the same diagnostics and to the same session, with any list of
classes without an annotation behind its own: they may have new names, names that are taken or
those of library types, and they may extend each other in a circle. Only the notes, which count
classes, would tell the difference. -/
theorem process_withTypes (session : Session) (hdebug : session.config.debug = false)
    {round : Round} {classes : List Java.ClassDecl}
    (hgenerated : session.outcomeOf round = .generated classes) {context : List TypeDecl}
    (hcontext : ∀ decl ∈ context, decl.annotation = none) :
    session.outcomeOf (round.withTypes context) = .generated classes ∧
      session.reportsOf (round.withTypes context) = session.reportsOf round ∧
      session.process (round.withTypes context) = session.process round := by
  have hround : (round.outcome session.config).2 = .generated classes :=
    outcome_of_outcomeOf hgenerated
  have houtcome : session.outcome (round.withTypes context) = session.outcome round := by
    rw [outcome, outcome, round.isEmpty_withTypes hcontext, Round.outcome_withTypes hcontext hround]
  have hnotes : session.notes (round.withTypes context) = session.notes round := by
    simp [notes, hdebug]
  have hprocess : session.process (round.withTypes context) = session.process round := by
    rw [process, process, houtcome, hnotes]
  refine ⟨?_, ?_, hprocess⟩
  · rw [outcomeOf, hprocess]
    exact hgenerated
  · rw [reportsOf, hprocess, reportsOf]

theorem outcomeOf_contextRound :
    ({} : Session).outcomeOf contextRound = .generated (classesOf {} contextRound.registry) := by
  -- the builder is one because the class between it and the library is
  have hreaches : contextRound.declReaches derivedBuilder .param = true := by
    have hlibrary : (ClassRef.ofLibrary .abstractParam []).library? = some .abstractParam :=
      TypeExpr.library?_ofLibrary .abstractParam []
    have hdecl : contextRound.types.find? (·.name == baseBuilder.classRef.name) =
        some baseBuilder := by decide
    exact leadTo_eq_true_iff.2 ⟨baseBuilder.classRef, List.mem_singleton_self _,
      .inherits (by decide) hdecl (List.mem_singleton_self _) (.library hlibrary rfl)⟩
  have hderived : contextRound.typeError? {} .param derivedBuilder = none := by
    refine Round.typeError?_eq_none_iff.2 ⟨?_, by decide⟩
    exact Contract.checkType_eq_ok_iff.1
      (Contract.checkType_param_eq_ok_iff.2 ⟨rfl, rfl, hreaches⟩)
  have hfailures : contextRound.failures {} = [] := by
    refine Round.failures_eq_nil_of_types_of_fields ?_ ?_
    · intro decl hdecl category hcategory
      simp only [contextRound, List.mem_cons, List.not_mem_nil, or_false] at hdecl
      rcases hdecl with rfl | rfl | rfl
      · cases hcategory
      · obtain rfl := Option.some.inj hcategory
        exact hderived
      · obtain rfl := Option.some.inj hcategory
        exact Round.typeError?_pageParser {} contextRound (by decide)
    · intro category
      cases category <;> decide
  exact outcomeOf_of_not_clashes {} hfailures
    (not_clashes_of_no_wrappers (by decide) (by decide))

/-- Classes without an annotation: one of a new name, one of a name that `contextRound` gives to
another class, one of the name of a library type, and two that extend each other. -/
def furtherTypes : List TypeDecl :=
  [{ name := "com.example.Extra", superclass := some (.ofLibrary .formParam []) },
    { name := "com.example.BaseParam" },
    { name := LibraryType.abstractParam.qualifiedName },
    { name := "com.example.First", superclass := some (.named "com.example.Second" []) },
    { name := "com.example.Second", superclass := some (.named "com.example.First" []) }]

theorem process_withTypes_contextRound :
    ({} : Session).config.debug = false ∧
      ({} : Session).outcomeOf contextRound = .generated (classesOf {} contextRound.registry) ∧
      (∀ decl ∈ furtherTypes, decl.annotation = none) ∧
      ({} : Session).outcomeOf (contextRound.withTypes furtherTypes) =
        .generated (classesOf {} contextRound.registry) ∧
      ({} : Session).reportsOf (contextRound.withTypes furtherTypes) =
        ({} : Session).reportsOf contextRound ∧
      ({} : Session).process (contextRound.withTypes furtherTypes) =
        ({} : Session).process contextRound := by
  have hcontext : ∀ decl ∈ furtherTypes, decl.annotation = none := by decide
  exact ⟨rfl, outcomeOf_contextRound, hcontext,
    process_withTypes {} rfl outcomeOf_contextRound hcontext⟩

end Session

end FluentHttp
