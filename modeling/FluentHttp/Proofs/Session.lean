import FluentHttp.Proofs.Contract.Reports
import FluentHttp.Proofs.Intake
import FluentHttp.Session
import Mathlib.Data.List.Forall2

/-!
# FluentHttp.Proofs.Session

What a round leads to, and what the rounds before it have to do with it.

A round is aborted exactly if an error is reported in it, and there is one error for each category
that fails (`Round.failures`), which tells the first broken rule and the declaration that breaks it,
or else one for the failure to generate. In a run of several rounds
(`Session.trace`) the only trace of the earlier ones is whether a round without annotations is
skipped.
-/

namespace FluentHttp

/-! ### Generation reports no errors by itself -/

theorem Api.noErrors_parserMembers (config : Config) (parsers : AliasTable) :
    NoErrors (parserMembers config parsers).1 := by
  induction parsers with
  | nil => simp [parserMembers, NoErrors]
  | cons entry rest ih =>
      obtain ⟨aliasName, decl⟩ := entry
      rw [parserMembers]
      split
      · exact List.forall_mem_cons.2 ⟨rfl, ih⟩
      · split
        · simp [NoErrors]
        · exact ih

theorem Api.noErrors_generate (config : Config) (registry : Registry) :
    NoErrors (generate config registry).1 := by
  rw [generate]
  split
  · simp [NoErrors]
  · exact noErrors_parserMembers config registry.parsers

/-! ### One round -/

namespace Round

/-- The failures of a round, by category. -/
def failures (config : Config) (round : Round) : List ContractError :=
  Category.all.filterMap (round.failure? config)

/-- A round that breaks a contract reports its failures and is aborted. -/
theorem outcome_of_failures {config : Config} {round : Round} (h : round.failures config ≠ []) :
    (round.outcome config).1.filter (·.isError) =
        (round.failures config).map (·.toDiagnostic) ∧
      (round.outcome config).2 = .aborted := by
  obtain ⟨hfailures, hreports⟩ := Survey.ofRound_spec config round
  have hne : (Survey.ofRound config round).failures ≠ [] := hfailures ▸ h
  rw [outcome, if_pos (by simpa using hne)]
  exact ⟨hreports, rfl⟩

/-- A round that breaks no contract generates classes, or else there is one error about no
declaration in particular. -/
theorem outcome_of_no_failures {config : Config} {round : Round}
    (h : round.failures config = []) :
    (∃ classes, (round.outcome config).2 = .generated classes) ∧
        (round.outcome config).1.filter (·.isError) = [] ∨
      (round.outcome config).2 = .aborted ∧
        ∃ error : Diagnostic, (round.outcome config).1.filter (·.isError) = [error] ∧
          error.declaration = none := by
  obtain ⟨hfailures, hreports⟩ := Survey.ofRound_spec config round
  have hnil : (Survey.ofRound config round).failures = [] := hfailures.trans h
  have hsurvey : (Survey.ofRound config round).reports.filter (·.isError) = [] := by
    rw [hreports, ← failures, h, List.map_nil]
  have hgenerate := (Api.noErrors_generate config (Survey.ofRound config round).registry)
  -- the registry is no matter to whether generating goes well
  rw [outcome, if_neg (by simp [hnil])]
  generalize Api.generate config (Survey.ofRound config round).registry = generated at hgenerate
  obtain ⟨reports, error | classes⟩ := generated
  · refine .inr ⟨rfl, error.toDiagnostic, ?_, rfl⟩
    simp only [List.filter_append, hsurvey, hgenerate.filter_eq_nil]
    rfl
  · refine .inl ⟨⟨classes, rfl⟩, ?_⟩
    simp [hsurvey, hgenerate.filter_eq_nil]

theorem outcome_ne_skipped (config : Config) (round : Round) :
    (round.outcome config).2 ≠ .skipped := by
  by_cases h : round.failures config = []
  · rcases outcome_of_no_failures h with ⟨⟨classes, hclasses⟩, -⟩ | ⟨haborted, -⟩
    · simp [hclasses]
    · simp [haborted]
  · simp [(outcome_of_failures h).2]

/-- With two default base URLs there is a failure: the second one, if nothing before it. -/
theorem failures_ne_nil_of_defaultDomains {config : Config} {round : Round}
    (h : 2 ≤ (round.annotatedFields .defaultDomain).length) : round.failures config ≠ [] := by
  obtain ⟨first, second, rest, hfields⟩ :
      ∃ first second rest, round.annotatedFields .defaultDomain = first :: second :: rest := by
    match round.annotatedFields .defaultDomain, h with
    | first :: second :: rest, _ => exact ⟨first, second, rest, rfl⟩
  have hsecond : (round.fieldError? .defaultDomain second 1).isSome := by
    cases hclause : Clause.firstBroken? (Contract.ofField round second .defaultDomain) <;>
      simp [fieldError?, hclause]
  have hmem : (second, 1) ∈ (round.annotatedFields .defaultDomain).zipIdx := by simp [hfields]
  obtain ⟨error, herror⟩ : ∃ error, round.failure? config .defaultDomain = some error := by
    rw [← Option.isSome_iff_exists, failure?, Option.isSome_or, Bool.or_eq_true]
    exact .inr (List.findSome?_isSome_iff.2 ⟨_, hmem, hsecond⟩)
  exact List.ne_nil_of_mem (List.mem_filterMap.2 ⟨.defaultDomain, by decide, herror⟩)

end Round

namespace Session

/-- What a session reports about its next round. -/
def reportsOf (session : Session) (round : Round) : List Diagnostic :=
  (session.process round).2.1

/-- The errors among it. -/
def errorsOf (session : Session) (round : Round) : List Diagnostic :=
  (session.reportsOf round).filter (·.isError)

/-- What the next round of a session leads to. -/
def outcomeOf (session : Session) (round : Round) : Outcome :=
  (session.process round).2.2

theorem outcomeOf_eq_skipped_iff {session : Session} {round : Round} :
    session.outcomeOf round = .skipped ↔ round.isEmpty = true ∧ session.generated = true := by
  have houtcome : session.outcomeOf round = (session.outcome round).2 := rfl
  rw [houtcome, outcome]
  by_cases h : (round.isEmpty && session.generated) = true
  · rw [if_pos h]
    simpa using h
  · rw [if_neg h]
    simpa [Round.outcome_ne_skipped] using h

theorem noErrors_notes (session : Session) (round : Round) : NoErrors (session.notes round) := by
  rw [notes]
  split
  · simp [NoErrors, Round.note, Diagnostic.isError]
  · simp [NoErrors]

/-- A round that is not skipped is processed by itself, behind its notes. -/
theorem process_of_ne_skipped {session : Session} {round : Round}
    (h : session.outcomeOf round ≠ .skipped) :
    session.outcomeOf round = (round.outcome session.config).2 ∧
      session.reportsOf round = session.notes round ++ (round.outcome session.config).1 := by
  have hcond : ¬(round.isEmpty && session.generated) = true := by
    simpa [outcomeOf_eq_skipped_iff] using h
  have houtcome : session.outcome round = round.outcome session.config := by
    rw [outcome, if_neg hcond]
  exact ⟨congrArg (·.2) houtcome, congrArg (session.notes round ++ ·.1) houtcome⟩

theorem errorsOf_of_ne_skipped {session : Session} {round : Round}
    (h : session.outcomeOf round ≠ .skipped) :
    session.errorsOf round = (round.outcome session.config).1.filter (·.isError) := by
  rw [errorsOf, (process_of_ne_skipped h).2, List.filter_append,
    (noErrors_notes session round).filter_eq_nil, List.nil_append]

/-- **What is reported decides what a round leads to.** If a category fails, the errors of a round
that is not skipped report the failures of its categories, one for each in their order, and the
round is aborted; the failures can be read off these errors. If none fails, there is no error and
classes are generated, or there is one error about no declaration and the round is aborted. -/
theorem process_errors (session : Session) (round : Round)
    (hskip : session.outcomeOf round ≠ .skipped) :
    (round.failures session.config ≠ [] →
      List.Forall₂ Diagnostic.Describes (session.errorsOf round) (round.failures session.config) ∧
        (∀ failures, List.Forall₂ Diagnostic.Describes (session.errorsOf round) failures →
          failures = round.failures session.config) ∧
        session.outcomeOf round = .aborted) ∧
    (round.failures session.config = [] →
      (∃ classes, session.outcomeOf round = .generated classes) ∧ session.errorsOf round = [] ∨
        session.outcomeOf round = .aborted ∧
          ∃ error : Diagnostic, session.errorsOf round = [error] ∧ error.declaration = none) ∧
    (session.outcomeOf round = .aborted ↔ session.errorsOf round ≠ []) ∧
    (2 ≤ (round.annotatedFields .defaultDomain).length →
      session.outcomeOf round = .aborted) ∧
    (∀ error ∈ round.failures session.config, ∀ count,
      error.violation = .duplicateDefaultDomain count →
        count = (round.annotatedFields .defaultDomain).length) := by
  have houtcome := (process_of_ne_skipped hskip).1
  rw [errorsOf_of_ne_skipped hskip, houtcome]
  refine ⟨fun h => ?_, Round.outcome_of_no_failures, ?_, ?_, ?_⟩
  · obtain ⟨herrors, haborted⟩ := Round.outcome_of_failures h
    have hreported := ContractError.forall₂_describes (round.failures session.config)
    rw [herrors]
    exact ⟨hreported, fun _ hother =>
      List.right_unique_forall₂' Diagnostic.describes_rightUnique hother hreported, haborted⟩
  · by_cases h : round.failures session.config = []
    · rcases Round.outcome_of_no_failures h with ⟨hgenerated, hnil⟩ | ⟨haborted, error, herror, -⟩
      · obtain ⟨classes, hclasses⟩ := hgenerated
        simp [hclasses, hnil]
      · simp [haborted, herror]
    · simp [(Round.outcome_of_failures h).2, (Round.outcome_of_failures h).1, h]
  · exact fun h => (Round.outcome_of_failures (Round.failures_ne_nil_of_defaultDomains h)).2
  · intro error herror count hduplicate
    obtain ⟨category, -, hfailure⟩ := List.mem_filterMap.1 herror
    exact (Round.eq_of_failure?_duplicate hfailure hduplicate).2

/-- A round in which a builder is not public and two fields hold the default base URL. -/
def brokenRound : Round :=
  let url (name : String) : FieldDecl :=
    { owner := "com.example.Url"
      name
      modifiers := { isPublic := true, isStatic := true }
      type := .named "java.lang.String" []
      annotation := some .defaultDomain }
  { types := [{ name := "com.example.HiddenParam", annotation := some (.param "hidden") }]
    fields := [url "baseUrl", url "otherUrl"] }

theorem process_errors_brokenRound :
    ({} : Session).outcomeOf brokenRound ≠ .skipped ∧
      ({} : Session).errorsOf brokenRound =
        [{ severity := .error
           declaration := some "com.example.HiddenParam"
           message := "@Param com.example.HiddenParam is not public" },
         { severity := .error
           declaration := some "com.example.Url.otherUrl"
           message := "@DefaultDomain com.example.Url.otherUrl is one of 2 @DefaultDomain " ++
             "declarations; the annotation can only be used once" }] ∧
      ({} : Session).outcomeOf brokenRound = .aborted := by
  have hskip : ({} : Session).outcomeOf brokenRound ≠ .skipped := by
    rw [ne_eq, outcomeOf_eq_skipped_iff]
    decide
  have hfailures : brokenRound.failures {} =
      [contractError .param "com.example.HiddenParam" .notPublic,
        contractError .defaultDomain "com.example.Url.otherUrl" (.duplicateDefaultDomain 2)] := by
    decide
  obtain ⟨hreported, -, haborted⟩ := (process_errors {} brokenRound hskip).1 (by simp [hfailures])
  rw [hfailures, List.forall₂_cons_right_iff] at hreported
  obtain ⟨hidden, others, hhidden, hothers, herrors⟩ := hreported
  obtain ⟨second, _, hsecond, hnil, rfl⟩ := List.forall₂_cons_right_iff.1 hothers
  obtain rfl := List.forall₂_nil_right_iff.1 hnil
  refine ⟨hskip, ?_, haborted⟩
  rw [herrors, hhidden.eq, hsecond.eq]
  rfl

end Session

/-! ### Several rounds -/

/-- Delivers the results of a round: what is reported, then the classes if there are any. -/
def Delivery.tell {m : Type → Type} [Monad m] (delivery : Delivery m) (reports : List Diagnostic)
    (outcome : Outcome) : m Unit := do
  reports.forM delivery.report
  match outcome with
  | .generated classes => classes.forM delivery.emit
  | .aborted | .skipped => return ()

/-- The notes on a round that is the one of a given number. -/
def Round.notesAt (config : Config) (number : Nat) (round : Round) : List Diagnostic :=
  if config.debug then [round.note config number] else []

/-- No declaration of a round is annotated. -/
def Round.IsUnannotated (round : Round) : Prop :=
  (∀ decl ∈ round.types, decl.annotation = none) ∧
    ∀ field ∈ round.fields, field.annotation = none

theorem Round.isEmpty_iff {round : Round} : round.isEmpty = true ↔ round.IsUnannotated := by
  simp [isEmpty, annotatedCount, IsUnannotated, List.countP_eq_zero]

theorem Outcome.isGenerated_iff {outcome : Outcome} :
    outcome.isGenerated = true ↔ ∃ classes, outcome = .generated classes := by
  cases outcome <;> simp [isGenerated]

namespace Session

/-- The session after several rounds. -/
def after : Session → List Round → Session
  | session, [] => session
  | session, round :: rest => (session.process round).1.after rest

/-- What the rounds of a session report and lead to, round by round. -/
def trace : Session → List Round → List (List Diagnostic × Outcome)
  | _, [] => []
  | session, round :: rest =>
    (session.reportsOf round, session.outcomeOf round) :: (session.process round).1.trace rest

/-- Processes rounds one after the other and delivers their results. -/
def deliverAll {m : Type → Type} [Monad m] (delivery : Delivery m) :
    Session → List Round → m (Session × List Outcome)
  | session, [] => return (session, [])
  | session, round :: rest => do
    let (session, outcome) ← session.deliver delivery round
    let (session, outcomes) ← deliverAll delivery session rest
    return (session, outcome :: outcomes)

theorem deliver_eq {m : Type → Type} [Monad m] [LawfulMonad m] (delivery : Delivery m)
    (session : Session) (round : Round) :
    session.deliver delivery round = (do
      delivery.tell (session.reportsOf round) (session.outcomeOf round)
      return ((session.process round).1, session.outcomeOf round)) := by
  unfold deliver Delivery.tell reportsOf outcomeOf
  obtain ⟨next, reports, outcome⟩ := session.process round
  cases outcome <;> simp [Outcome.classes]

/-- A run delivers the results of its rounds, one after the other. -/
theorem deliverAll_eq_trace {m : Type → Type} [Monad m] [LawfulMonad m] (delivery : Delivery m)
    (session : Session) (rounds : List Round) :
    session.deliverAll delivery rounds = (do
      (session.trace rounds).forM fun (reports, outcome) => delivery.tell reports outcome
      return (session.after rounds, (session.trace rounds).map (·.2))) := by
  induction rounds generalizing session with
  | nil => simp [deliverAll, trace, after]
  | cons round rest ih => simp [deliverAll, deliver_eq, trace, after, ih]

@[simp] theorem length_trace (session : Session) (rounds : List Round) :
    (session.trace rounds).length = rounds.length := by
  induction rounds generalizing session with
  | nil => rfl
  | cons round rest ih => simp [trace, ih]

@[simp] theorem config_after (session : Session) (rounds : List Round) :
    (session.after rounds).config = session.config := by
  induction rounds generalizing session with
  | nil => rfl
  | cons round rest ih => rw [after, ih]; rfl

theorem rounds_after (session : Session) (rounds : List Round) :
    (session.after rounds).rounds = session.rounds + rounds.length := by
  induction rounds generalizing session with
  | nil => rfl
  | cons round rest ih =>
      have hstep : (session.process round).1.rounds = session.rounds + 1 := rfl
      rw [after, ih, hstep, List.length_cons]
      omega

/-- A session remembers of its rounds that one of them has generated classes, and no more. -/
theorem generated_after (session : Session) (rounds : List Round) :
    (session.after rounds).generated = true ↔
      session.generated = true ∨ ∃ result ∈ session.trace rounds, result.2.isGenerated = true := by
  induction rounds generalizing session with
  | nil => simp [after, trace]
  | cons round rest ih =>
      have hstep : (session.process round).1.generated =
          (session.generated || (session.outcomeOf round).isGenerated) := rfl
      rw [after, ih, hstep, trace]
      simp [or_assoc]

theorem trace_take (session : Session) (rounds : List Round) (i : Nat) :
    session.trace (rounds.take i) = (session.trace rounds).take i := by
  induction rounds generalizing session i with
  | nil => simp [trace]
  | cons round rest ih =>
      cases i with
      | zero => rfl
      | succ i => simp [trace, ih]

/-- Each round is processed by the session after the rounds before it. -/
theorem trace_getElem? (session : Session) (rounds : List Round) (i : Nat) :
    (session.trace rounds)[i]? = rounds[i]?.map fun round =>
      ((session.after (rounds.take i)).reportsOf round,
        (session.after (rounds.take i)).outcomeOf round) := by
  induction rounds generalizing session i with
  | nil => simp [trace]
  | cons round rest ih =>
      cases i with
      | zero => rfl
      | succ i => simp [trace, after, ih]

theorem generated_after_take (session : Session) (rounds : List Round) (i : Nat) :
    (session.after (rounds.take i)).generated = true ↔
      session.generated = true ∨
        ∃ j < i, ∃ reports classes,
          (session.trace rounds)[j]? = some (reports, .generated classes) := by
  rw [generated_after, trace_take]
  refine or_congr_right ⟨?_, ?_⟩
  · rintro ⟨⟨reports, outcome⟩, hmem, hgenerated⟩
    obtain ⟨classes, rfl⟩ := Outcome.isGenerated_iff.1 hgenerated
    obtain ⟨j, hj⟩ := List.mem_iff_getElem?.1 hmem
    rw [List.getElem?_take] at hj
    split at hj
    · exact ⟨j, ‹j < i›, reports, classes, hj⟩
    · simp at hj
  · rintro ⟨j, hj, reports, classes, hget⟩
    refine ⟨(reports, .generated classes), List.mem_iff_getElem?.2 ⟨j, ?_⟩, rfl⟩
    rw [List.getElem?_take, if_pos hj, hget]

/-- What is reported about a round that is not skipped depends on the configuration, and on the
session only by the number in the notes. -/
theorem exists_reportsOf_eq {session : Session} {round : Round}
    (h : session.outcomeOf round ≠ .skipped) :
    ∃ own, session.reportsOf round =
        round.notesAt session.config (session.rounds + 1) ++ own ∧
      ({ config := session.config } : Session).reportsOf round =
        round.notesAt session.config 1 ++ own := by
  have hfresh : ({ config := session.config } : Session).outcomeOf round ≠ .skipped := by
    simp [outcomeOf_eq_skipped_iff]
  exact ⟨_, (process_of_ne_skipped h).2, (process_of_ne_skipped hfresh).2⟩

/-- **A run of several rounds is its rounds, each by itself.** A round is skipped exactly if it has
no annotated declaration and an earlier one has generated classes. Any other round leads to what it
leads to in a session of its own, and reports the same but for its number in the notes. All that is
delivered are the reports and, of the rounds that generate classes, these classes in order. -/
theorem deliverAll_eq {m : Type → Type} [Monad m] [LawfulMonad m] (delivery : Delivery m)
    (config : Config) (rounds : List Round) :
    let fresh : Session := { config }
    let results := fresh.trace rounds
    (fresh.deliverAll delivery rounds = do
      results.forM fun (reports, outcome) => delivery.tell reports outcome
      return (fresh.after rounds, results.map (·.2))) ∧
    (fresh.after rounds).rounds = rounds.length ∧
    results.length = rounds.length ∧
    ∀ i round reports outcome,
      rounds[i]? = some round → results[i]? = some (reports, outcome) →
      (outcome = .skipped ↔
        round.IsUnannotated ∧
          ∃ j < i, ∃ earlier classes, results[j]? = some (earlier, .generated classes)) ∧
      (outcome ≠ .skipped →
        outcome = fresh.outcomeOf round ∧
          ∃ own, reports = round.notesAt config (i + 1) ++ own ∧
            fresh.reportsOf round = round.notesAt config 1 ++ own) := by
  intro fresh results
  refine ⟨deliverAll_eq_trace delivery fresh rounds, ?_, length_trace fresh rounds, ?_⟩
  · simpa [fresh] using rounds_after fresh rounds
  · intro i round reports outcome hround hresult
    have hi : i < rounds.length := (List.getElem?_eq_some_iff.1 hround).1
    -- all that the session before the round has to say are its number and the configuration
    have hnumber : (fresh.after (rounds.take i)).rounds = i := by
      simp [rounds_after, fresh, Nat.min_eq_left (Nat.le_of_lt hi)]
    have hconfig : (fresh.after (rounds.take i)).config = config := config_after fresh _
    rw [trace_getElem?, hround] at hresult
    simp only [Option.map_some, Option.some.injEq, Prod.mk.injEq] at hresult
    obtain ⟨rfl, rfl⟩ := hresult
    refine ⟨?_, fun hskip => ⟨?_, ?_⟩⟩
    · rw [outcomeOf_eq_skipped_iff, Round.isEmpty_iff, generated_after_take]
      simp [fresh, results]
    · have hfresh : fresh.outcomeOf round ≠ .skipped := by
        simp [outcomeOf_eq_skipped_iff, fresh]
      rw [(process_of_ne_skipped hskip).1, (process_of_ne_skipped hfresh).1, hconfig]
    · have hown := exists_reportsOf_eq hskip
      rwa [hnumber, hconfig] at hown

/-- Takes note of what it is told, in order. -/
def recorder : Delivery (StateM (List (Diagnostic ⊕ Java.ClassDecl))) where
  report diagnostic := modify (· ++ [.inl diagnostic])
  emit decl := modify (· ++ [.inr decl])

/-- The third round is skipped because of the first one, with a broken round in between. -/
theorem deliverAll_eq_skippedRound :
    let results := ({} : Session).trace [{}, brokenRound, {}]
    (({} : Session).deliverAll recorder [{}, brokenRound, {}] = do
      results.forM fun (reports, outcome) => recorder.tell reports outcome
      return (({} : Session).after [{}, brokenRound, {}], results.map (·.2))) ∧
    results[2]? = some ([], .skipped) ∧
    ∃ j < 2, ∃ earlier classes, results[j]? = some (earlier, .generated classes) := by
  intro results
  have hthird : results[2]? = some ([], .skipped) := by rfl
  obtain ⟨hdelivered, -, -, hrounds⟩ := deliverAll_eq recorder {} [{}, brokenRound, {}]
  obtain ⟨hskipped, -⟩ := hrounds 2 {} [] .skipped rfl hthird
  exact ⟨hdelivered, hthird, (hskipped.1 rfl).2⟩

end Session

end FluentHttp
