import FluentHttp.Registry

/-!
# FluentHttp.Intake

How the annotated declarations of a round get into a registry.

The categories are taken up one after the other. Within a category the classes come first, then the
fields, and the first declaration that is not accepted ends the category. A failure of one category
leaves the next ones to be taken up, unless it is fatal for the round.
-/

namespace FluentHttp

/-! ### One declaration -/

/-- What accepting a declaration leads to: a larger registry with what there is to report, or an
error. -/
abbrev Acceptance := Except ContractError (Registry × List Diagnostic)

/-- Accepts a class to a category, if it meets the contract and its alias is not empty. -/
def acceptType (config : Config) (round : Round) (category : Category) (registry : Registry)
    (decl : TypeDecl) : Acceptance := do
  Contract.checkType config round category decl
  match category with
  | .param => registry.addParam decl
  | .parser => registry.addParser decl
  | .converter | .okClient | .domain | .defaultDomain => return (registry, [])

/-- Accepts a field to a category, if it meets the contract and is not a second default base URL. -/
def acceptField (round : Round) (category : Category) (registry : Registry) (field : FieldDecl) :
    Acceptance := do
  Contract.checkField round category field
  match category with
  | .converter => return (registry.addConverter field, [])
  | .okClient => return (registry.addClient field, [])
  | .domain => return (registry.addDomain field, [])
  | .defaultDomain =>
    let registry ← registry.setDefaultDomain field (round.annotatedFields .defaultDomain).length
    return (registry, [])
  | .param | .parser => return (registry, [])

/-! ### One category -/

/-- What came of accepting declarations one after the other. -/
structure Intake where
  /-- The registry with the declarations that were accepted. -/
  registry : Registry
  /-- What there was to report about them. -/
  reports : List Diagnostic := []
  /-- The error that ended it. -/
  failure : Option ContractError := none

namespace Intake

/-- Accepts declarations up to the first one that is refused. -/
def ofList {α : Type} (accept : Registry → α → Acceptance) (registry : Registry) :
    List α → Intake
  | [] => { registry }
  | decl :: rest =>
    match accept registry decl with
    | .error error => { registry, failure := some error }
    | .ok (registry, reports) =>
      let others := ofList accept registry rest
      { others with reports := reports ++ others.reports }

/-- Accepts the annotated declarations of a category, classes before fields. -/
def ofCategory (config : Config) (round : Round) (registry : Registry) (category : Category) :
    Intake :=
  let types := ofList (acceptType config round category) registry (round.annotatedTypes category)
  match types.failure with
  | some _ => types
  | none =>
    let fields :=
      ofList (acceptField round category) types.registry (round.annotatedFields category)
    { fields with reports := types.reports ++ fields.reports }

end Intake

/-! ### All categories -/

/-- What came of the categories of a round. -/
structure Survey where
  /-- The registry with the declarations that were accepted. -/
  registry : Registry
  /-- What there was to report, errors included. -/
  reports : List Diagnostic := []
  /-- The errors, one for each category that failed. -/
  failures : List ContractError := []

namespace Survey

/-- Takes up categories one after the other. A failure is reported after what its category had to
report; a fatal one is the last thing that happens. -/
def ofCategories (config : Config) (round : Round) (registry : Registry) :
    List Category → Survey
  | [] => { registry }
  | category :: rest =>
    let intake := Intake.ofCategory config round registry category
    match intake.failure with
    | none =>
      let others := ofCategories config round intake.registry rest
      { others with reports := intake.reports ++ others.reports }
    | some error =>
      let reports := intake.reports ++ [error.toDiagnostic]
      if error.isFatal then { registry := intake.registry, reports, failures := [error] }
      else
        let others := ofCategories config round intake.registry rest
        { others with
          reports := reports ++ others.reports
          failures := error :: others.failures }

/-- Takes up all categories of a round. -/
def ofRound (config : Config) (round : Round) : Survey :=
  ofCategories config round {} Category.all

end Survey

end FluentHttp
