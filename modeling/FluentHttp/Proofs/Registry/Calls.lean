import FluentHttp.Proofs.Registry

/-!
# FluentHttp.Proofs.Registry.Calls

Registries by the calls that made them. Calls may come in any order, and some of them are refused.

`Registry.ofCalls` reads off the whole list of calls what a registry holds, without going through
them one by one. One more call at the end of the list does to that registry what its response says
(`Registry.perform_ofCalls`), so performing all calls leads to it (`Registry.run_eq_ofCalls`). What
a call is answered depends on the calls before it in two ways only: an alias may have come up, and
the slot of the default base URL may be taken.
-/

namespace FluentHttp

namespace AliasTable

theorem find?_cons (first other : String) (decl : TypeDecl) (rest : AliasTable) :
    find? ((first, decl) :: rest) other =
      if other = first then some decl else find? rest other := by
  by_cases h : other = first
  · simp [find?, h]
  · have hne : (other == first) = false := beq_false_of_ne h
    simp [find?, List.lookup_cons, h, hne]

theorem find?_insert (aliasName other : String) (decl : TypeDecl) (table : AliasTable) :
    (insert aliasName decl table).find? other =
      if other = aliasName then some decl else table.find? other := by
  induction table with
  | nil => rw [insert, find?_cons]
  | cons entry rest ih =>
      obtain ⟨first, previous⟩ := entry
      rw [insert]
      by_cases hfirst : first = aliasName
      · subst hfirst
        rw [if_pos rfl, find?_cons, find?_cons]
        split <;> rfl
      · rw [if_neg hfirst, find?_cons, find?_cons, ih]
        by_cases h : other = first
        · rw [if_pos h, if_pos h, if_neg (h ▸ hfirst)]
        · rw [if_neg h, if_neg h]

theorem find?_ofDecls (decls : List TypeDecl) (aliasName : String) :
    (ofDecls decls).find? aliasName = lastOf? decls aliasName := by
  induction decls using List.reverseRecOn with
  | nil => rfl
  | append_singleton decls decl ih => rw [ofDecls_concat, find?_insert, ih, lastOf?_concat]

end AliasTable

namespace Registry

/-! ### Calls -/

/-- A call on a registry. -/
inductive Call where
  | addParam (decl : TypeDecl)
  | addParser (decl : TypeDecl)
  | addConverter (field : FieldDecl)
  | addClient (field : FieldDecl)
  | addDomain (field : FieldDecl)
  | setDefaultDomain (field : FieldDecl)

/-- What a call comes to: a larger registry with what there is to report, or an error. -/
def attempt (registry : Registry) : Call → Acceptance
  | .addParam decl => registry.addParam decl
  | .addParser decl => registry.addParser decl
  | .addConverter field => .ok (registry.addConverter field, [])
  | .addClient field => .ok (registry.addClient field, [])
  | .addDomain field => .ok (registry.addDomain field, [])
  | .setDefaultDomain field => (registry.setDefaultDomain field).map (·, [])

/-- How a call is answered. -/
structure Response where
  /-- The registry after the call. -/
  registry : Registry
  /-- What the call reported. -/
  reports : List Diagnostic
  /-- The error that the call was refused with. -/
  error? : Option ContractError

/-- Performs a call. After an error there is the registry that the call was made on. -/
def perform (registry : Registry) (call : Call) : Response :=
  match registry.attempt call with
  | .ok (registry, reports) => { registry, reports, error? := none }
  | .error error => { registry, reports := [], error? := some error }

/-- The registry after calls on an empty one. -/
def run (calls : List Call) : Registry :=
  calls.foldl (fun registry call => (registry.perform call).registry) {}

theorem run_concat (calls : List Call) (call : Call) :
    run (calls ++ [call]) = ((run calls).perform call).registry := by
  simp [run]

/-! ### What calls amount to -/

/-- The classes that calls register in a category. Without an alias a class is not registered. -/
def registered (category : Category) (calls : List Call) : List TypeDecl :=
  calls.filterMap fun call =>
    match category, call with
    | .param, .addParam decl | .parser, .addParser decl =>
      if decl.givenAlias = "" then none else some decl
    | _, _ => none

/-- The fields that calls offer to a category. -/
def offered (category : Category) (calls : List Call) : List FieldDecl :=
  calls.filterMap fun call =>
    match category, call with
    | .converter, .addConverter field
    | .okClient, .addClient field
    | .domain, .addDomain field
    | .defaultDomain, .setDefaultDomain field => some field
    | _, _ => none

/-- The error that a call behind others is refused with. -/
def refusal? (before : List Call) : Call → Option ContractError
  | .addParam decl =>
    if decl.givenAlias = "" then some (contractError .param decl.name .emptyAlias) else none
  | .addParser decl =>
    if decl.givenAlias = "" then some (contractError .parser decl.name .emptyAlias) else none
  | .setDefaultDomain field =>
    if offered .defaultDomain before = [] then none
    else some (contractError .defaultDomain field.qualifiedName (.duplicateDefaultDomain 2))
  | .addConverter _ | .addClient _ | .addDomain _ => none

/-- The warnings about the class that one takes the place of, if there is one: the last class of
those registered that has its alias. -/
def takeoverWarnings (registered : List TypeDecl) (decl : TypeDecl) : List Diagnostic :=
  (registered.filter (·.givenAlias == decl.givenAlias)).getLast?.toList.map fun previous =>
    { severity := .warning
      declaration := some decl.name
      message := s!"alias '{decl.givenAlias}' was already registered by {previous.name};"
        ++ " it now refers to this declaration" }

/-- What a call behind others reports if it is not refused. -/
def warnings (before : List Call) : Call → List Diagnostic
  | .addParam decl => takeoverWarnings (registered .param before) decl
  | .addParser decl => takeoverWarnings (registered .parser before) decl
  | .addConverter _ | .addClient _ | .addDomain _ | .setDefaultDomain _ => []

/-- The registry that calls lead to. -/
def ofCalls (calls : List Call) : Registry where
  params := .ofDecls (registered .param calls)
  parsers := .ofDecls (registered .parser calls)
  converters := offered .converter calls
  clients := offered .okClient calls
  domains := offered .domain calls
  defaultDomain := (offered .defaultDomain calls).head?

theorem registered_concat (category : Category) (calls : List Call) (call : Call) :
    registered category (calls ++ [call]) =
      registered category calls ++ registered category [call] :=
  List.filterMap_append

theorem offered_concat (category : Category) (calls : List Call) (call : Call) :
    offered category (calls ++ [call]) = offered category calls ++ offered category [call] :=
  List.filterMap_append

theorem replacements_ofDecls (decls : List TypeDecl) (decl : TypeDecl) :
    replacements decl.givenAlias decl (.ofDecls decls) = takeoverWarnings decls decl := by
  rw [replacements, AliasTable.find?_ofDecls]
  rfl

/-! ### One call -/

theorem aliasOf_eq_givenAlias (category : Category) (decl : TypeDecl) :
    aliasOf category decl =
      if decl.givenAlias = "" then .error (contractError category decl.name .emptyAlias)
      else .ok decl.givenAlias := by
  simp only [aliasOf_eq, String.isEmpty_iff]
  rfl

section OneCall

variable {calls : List Call} {call : Call}

theorem attempt_of_refusal {error : ContractError} (h : refusal? calls call = some error) :
    (ofCalls calls).attempt call = .error error := by
  cases call with
  | addParam decl | addParser decl =>
      rw [refusal?] at h
      split at h
      · next hempty =>
          cases h
          simp only [attempt, addParam, addParser, aliasOf_eq_givenAlias, if_pos hempty]
          rfl
      · cases h
  | setDefaultDomain field =>
      rw [refusal?] at h
      split at h
      · cases h
      · next hfields =>
          obtain ⟨first, rest, hfirst⟩ := List.exists_cons_of_ne_nil hfields
          cases h
          simp [attempt, setDefaultDomain, ofCalls, hfirst, Except.map, contractError]
  | addConverter field | addClient field | addDomain field => cases h

/-- A call that is refused adds nothing. -/
theorem ofCalls_concat_of_refusal {error : ContractError}
    (h : refusal? calls call = some error) : ofCalls (calls ++ [call]) = ofCalls calls := by
  cases call with
  | addParam decl | addParser decl =>
      rw [refusal?] at h
      split at h
      · next hempty => simp [ofCalls, registered, offered, hempty]
      · cases h
  | setDefaultDomain field =>
      rw [refusal?] at h
      split at h
      · cases h
      · next hfields =>
          -- the slot keeps the first field
          have hhead : (offered .defaultDomain calls ++ [field]).head? =
              (offered .defaultDomain calls).head? := List.head?_append_of_ne_nil _ hfields
          simp only [ofCalls, registered_concat, offered_concat]
          simpa [registered, offered] using hhead
  | addConverter field | addClient field | addDomain field => cases h

theorem attempt_of_no_refusal (h : refusal? calls call = none) :
    (ofCalls calls).attempt call =
      .ok (ofCalls (calls ++ [call]), warnings calls call) := by
  cases call with
  | addParam decl | addParser decl =>
      have hne : decl.givenAlias ≠ "" := by
        intro hempty
        simp [refusal?, hempty] at h
      simp only [attempt, addParam, addParser, aliasOf_eq_givenAlias, if_neg hne]
      simp only [ofCalls, registered_concat, offered_concat, bind, Except.bind, pure, Except.pure]
      simp [registered, offered, hne, AliasTable.ofDecls_concat, replacements_ofDecls, warnings]
  | setDefaultDomain field =>
      have hfree : offered .defaultDomain calls = [] := by
        by_contra hfields
        simp [refusal?, hfields] at h
      simp only [ofCalls, registered_concat, offered_concat, hfree]
      simp [attempt, setDefaultDomain, registered, offered, warnings, Except.map]
  | addConverter field | addClient field | addDomain field =>
      simp only [ofCalls, registered_concat, offered_concat]
      simp [attempt, addConverter, addClient, addDomain, registered, offered, warnings]

end OneCall

/-- A call on the registry of the calls before it is refused, or else leads to the registry of all
of them. -/
theorem perform_ofCalls (calls : List Call) (call : Call) :
    (ofCalls calls).perform call =
      match refusal? calls call with
      | some error => { registry := ofCalls calls, reports := [], error? := some error }
      | none =>
        { registry := ofCalls (calls ++ [call])
          reports := warnings calls call
          error? := none } := by
  rw [perform]
  cases hrefusal : refusal? calls call with
  | some error => rw [attempt_of_refusal hrefusal]
  | none => rw [attempt_of_no_refusal hrefusal]

/-! ### All calls -/

theorem run_eq_ofCalls (calls : List Call) : run calls = ofCalls calls := by
  induction calls using List.reverseRecOn with
  | nil => rfl
  | append_singleton calls call ih =>
      rw [run_concat, ih, perform_ofCalls]
      cases hrefusal : refusal? calls call with
      | some error => exact (ofCalls_concat_of_refusal hrefusal).symm
      | none => rfl

/-- What a registry holds after calls: the classes registered in either category, each alias once
in the order in which the aliases first came up and with the last class registered under it, all
fields offered to the other categories in their order, and in the slot of the default base URL the
first field offered. -/
structure Holds (registry : Registry) (calls : List Call) : Prop where
  params : registry.params.HoldsLast (registered .param calls)
  nodupParams : (registry.params.map (·.1)).Nodup
  parsers : registry.parsers.HoldsLast (registered .parser calls)
  nodupParsers : (registry.parsers.map (·.1)).Nodup
  converters : registry.converters = offered .converter calls
  clients : registry.clients = offered .okClient calls
  domains : registry.domains = offered .domain calls
  defaultDomain : registry.defaultDomain = (offered .defaultDomain calls).head?

theorem holds_ofCalls (calls : List Call) : (ofCalls calls).Holds calls where
  params := AliasTable.holdsLast_ofDecls _
  nodupParams := by
    rw [ofCalls, AliasTable.map_fst_ofDecls]
    exact nodup_eraseDups _
  parsers := AliasTable.holdsLast_ofDecls _
  nodupParsers := by
    rw [ofCalls, AliasTable.map_fst_ofDecls]
    exact nodup_eraseDups _
  converters := rfl
  clients := rfl
  domains := rfl
  defaultDomain := rfl

/-- **A registry after any calls, and what it answers to the next one.** It holds what the calls
registered. The next call is refused if it registers a class without an alias or offers a second
default base URL: then the registry stays as it is and nothing is reported. If it is not refused,
the registry is that of all calls, and there is a warning exactly if the alias has come up in the
same category: one, about the new class, that names the class whose place it takes. -/
theorem perform_run (calls : List Call) (call : Call) :
    (run calls).Holds calls ∧
      (run calls).perform call =
        match refusal? calls call with
        | some error => { registry := run calls, reports := [], error? := some error }
        | none =>
          { registry := run (calls ++ [call])
            reports := warnings calls call
            error? := none } := by
  simp only [run_eq_ofCalls]
  exact ⟨holds_ofCalls calls, perform_ofCalls calls call⟩

end Registry

end FluentHttp
