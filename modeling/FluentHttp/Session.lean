import FluentHttp.Api.Generation
import FluentHttp.Intake

/-!
# FluentHttp.Session

The rounds of a run of the generator.

A round leads to classes, to an abort or to nothing. The only thing that one round hands on to the
next is whether classes have been generated: once they have, a round without annotated declarations
is skipped. Everything else about a round follows from its declarations and the configuration.
-/

namespace FluentHttp

/-! ### One round -/

/-- What a round leads to. -/
inductive Outcome where
  /-- The classes to emit, in order. -/
  | generated (classes : List Java.ClassDecl)
  /-- An error was reported, and nothing is to be emitted. -/
  | aborted
  /-- There was nothing to do after an earlier round had generated classes. -/
  | skipped

namespace Outcome

/-- The classes to emit. -/
def classes : Outcome → List Java.ClassDecl
  | generated classes => classes
  | aborted | skipped => []

/-- Whether classes were generated, be they any number. -/
def isGenerated : Outcome → Bool
  | generated _ => true
  | aborted | skipped => false

end Outcome

/-- The error that reports a failure to generate. It is about no declaration in particular. -/
def Api.ApiError.toDiagnostic (error : Api.ApiError) : Diagnostic :=
  { severity := .error
    declaration := none
    message := s!"Internal generator error: {error.message}" }

/-- What a round leads to when it is not skipped, with what there is to report. -/
def Round.outcome (config : Config) (round : Round) : List Diagnostic × Outcome :=
  let survey := Survey.ofRound config round
  if !survey.failures.isEmpty then (survey.reports, .aborted)
  else
    let (reports, classes) := Api.generate config survey.registry
    match classes with
    | .ok classes => (survey.reports ++ reports, .generated classes)
    | .error error => (survey.reports ++ reports ++ [error.toDiagnostic], .aborted)

/-- The note that describes a round. -/
def Round.note (config : Config) (number : Nat) (round : Round) : Diagnostic :=
  { severity := .note
    declaration := none
    message := s!"round {number}: {round.types.length} types, {round.fields.length} fields, "
      ++ s!"{round.annotatedCount} annotated "
      ++ s!"(package {config.package}, reactive {config.reactive.name})" }

/-! ### Several rounds -/

/-- A run of the generator. -/
structure Session where
  config : Config := {}
  /-- The number of rounds so far, skipped ones included. -/
  rounds : Nat := 0
  /-- Some round has generated classes. -/
  generated : Bool := false

namespace Session

/-- The notes on the next round, of which there are none unless they are asked for. -/
def notes (session : Session) (round : Round) : List Diagnostic :=
  if session.config.debug then [round.note session.config (session.rounds + 1)] else []

/-- What the next round leads to, with what there is to report beside the notes. -/
def outcome (session : Session) (round : Round) : List Diagnostic × Outcome :=
  if round.isEmpty && session.generated then ([], .skipped) else round.outcome session.config

/-- The session after a round with this outcome. -/
def advance (session : Session) (outcome : Outcome) : Session :=
  { session with
    rounds := session.rounds + 1
    generated := session.generated || outcome.isGenerated }

/-- Processes a round: the session after it, what there is to report, and what it leads to. -/
def process (session : Session) (round : Round) : Session × List Diagnostic × Outcome :=
  let (reports, outcome) := session.outcome round
  (session.advance outcome, session.notes round ++ reports, outcome)

end Session

/-! ### Delivery -/

/-- Where a session sends its results. -/
structure Delivery (m : Type → Type) where
  /-- Takes a diagnostic. -/
  report : Diagnostic → m Unit
  /-- Takes a generated class. -/
  emit : Java.ClassDecl → m Unit

/-- Processes a round and delivers its results, the diagnostics before the classes. Where the monad
has failures, the first one ends the delivery. -/
def Session.deliver {m : Type → Type} [Monad m] (delivery : Delivery m) (session : Session)
    (round : Round) : m (Session × Outcome) := do
  let (session, reports, outcome) := session.process round
  reports.forM delivery.report
  outcome.classes.forM delivery.emit
  return (session, outcome)

end FluentHttp
