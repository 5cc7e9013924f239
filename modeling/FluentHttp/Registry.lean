import FluentHttp.Contract

/-!
# FluentHttp.Registry

The declarations of a round that have met their contracts, by category. Builders and parsers are
kept under their alias, in the order in which the aliases first came up; a later declaration takes
the place of an earlier one of the same alias. Fields are kept in the order they came in.
-/

namespace FluentHttp

/-! ### Classes by alias -/

/-- Classes by alias, in the order of the aliases. -/
abbrev AliasTable := List (String × TypeDecl)

namespace AliasTable

/-- The class under an alias. -/
def find? (table : AliasTable) (aliasName : String) : Option TypeDecl :=
  table.lookup aliasName

/-- The table with a class put under an alias, in the place of the class that had it. -/
def insert (aliasName : String) (decl : TypeDecl) : AliasTable → AliasTable
  | [] => [(aliasName, decl)]
  | (other, previous) :: rest =>
    if other = aliasName then (aliasName, decl) :: rest
    else (other, previous) :: insert aliasName decl rest

end AliasTable

/-! ### Registries -/

/-- The declarations of a round, by category. -/
structure Registry where
  params : AliasTable := []
  parsers : AliasTable := []
  converters : List FieldDecl := []
  clients : List FieldDecl := []
  domains : List FieldDecl := []
  defaultDomain : Option FieldDecl := none
  deriving DecidableEq, Repr, Inhabited

namespace Registry

/-- Whether there is any base URL. -/
def hasDomains (registry : Registry) : Bool :=
  !registry.domains.isEmpty || registry.defaultDomain.isSome

/-- The alias of a class as a member of a category. -/
def aliasOf (category : Category) (decl : TypeDecl) : Except ContractError String :=
  match decl.aliasName?.filter (!·.isEmpty) with
  | some aliasName => .ok aliasName
  | none => .error { category, declaration := decl.name, violation := .emptyAlias }

/-- The warning that a class takes the place of another one. -/
def replacement (aliasName : String) (decl previous : TypeDecl) : Diagnostic :=
  { severity := .warning
    declaration := some decl.name
    message := s!"alias '{aliasName}' was already registered by {previous.name};"
      ++ " it now refers to this declaration" }

/-- The warnings that come with putting a class under an alias. -/
def replacements (aliasName : String) (decl : TypeDecl) (table : AliasTable) : List Diagnostic :=
  (table.find? aliasName).toList.map (replacement aliasName decl)

/-- Registers a builder, with what there is to report about it. -/
def addParam (registry : Registry) (decl : TypeDecl) :
    Except ContractError (Registry × List Diagnostic) := do
  let aliasName ← aliasOf .param decl
  return ({ registry with params := registry.params.insert aliasName decl },
    replacements aliasName decl registry.params)

/-- Registers a parser, with what there is to report about it. -/
def addParser (registry : Registry) (decl : TypeDecl) :
    Except ContractError (Registry × List Diagnostic) := do
  let aliasName ← aliasOf .parser decl
  return ({ registry with parsers := registry.parsers.insert aliasName decl },
    replacements aliasName decl registry.parsers)

/-- Registers a converter. -/
def addConverter (registry : Registry) (field : FieldDecl) : Registry :=
  { registry with converters := registry.converters ++ [field] }

/-- Registers a client. -/
def addClient (registry : Registry) (field : FieldDecl) : Registry :=
  { registry with clients := registry.clients ++ [field] }

/-- Registers a base URL. -/
def addDomain (registry : Registry) (field : FieldDecl) : Registry :=
  { registry with domains := registry.domains ++ [field] }

/-- Registers the default base URL, of which `count` are declared. -/
def setDefaultDomain (registry : Registry) (field : FieldDecl) (count : Nat := 2) :
    Except ContractError Registry :=
  match registry.defaultDomain with
  | none => .ok { registry with defaultDomain := some field }
  | some _ =>
    .error
      { category := .defaultDomain
        declaration := field.qualifiedName
        violation := .duplicateDefaultDomain count }

end Registry

end FluentHttp
