import FluentHttp.Api.Accessor
import FluentHttp.Api.EntryClass
import FluentHttp.Api.Extension

/-!
# FluentHttp.Api.Generation

All classes that a registry leads to: the wrappers of its builders, the entry class, and the
extensions.
-/

namespace FluentHttp.Api

open Java

/-! ### Builders -/

/-- The wrappers of builders. No two may have the same name; `taken` are the names so far. -/
def wrappers (config : Config) (taken : List String) :
    AliasTable → Except ApiError (List ClassDecl)
  | [] => .ok []
  | (_, decl) :: rest =>
    let name := wrapperName decl
    if name ∈ taken then .error (.wrapperClash decl.name name)
    else do
      let others ← wrappers config (name :: taken) rest
      return wrapper config decl :: others

/-! ### Parsers -/

/-- The warning that a parser parses nothing. -/
def nothingParsed (decl : TypeDecl) : Diagnostic :=
  { severity := .warning
    declaration := some decl.name
    message := "declares no public onParse(okhttp3.Response) method; no accessors were generated" }

/-- The members that parsers contribute. -/
structure ParserMembers where
  /-- The reactive accessors, for the entry class. -/
  accessors : List Java.Member := []
  extensions : List Java.Member := []

/-- The members of parsers, with a warning for each that parses nothing. A failure ends it; what was
reported before stays reported. -/
def parserMembers (config : Config) :
    AliasTable → List Diagnostic × Except ApiError ParserMembers
  | [] => ([], .ok {})
  | (aliasName, decl) :: rest =>
    if decl.product?.isNone then
      let (reports, members) := parserMembers config rest
      (nothingParsed decl :: reports, members)
    else
      match accessors config aliasName decl decl.wrappers with
      | .error failure => ([], .error failure)
      | .ok own =>
        let (reports, members) := parserMembers config rest
        (reports, members.map fun others =>
          { accessors := own.getD [] ++ others.accessors
            extensions := (extensions aliasName decl).getD [] ++ others.extensions })

/-! ### Everything -/

/-- The factories of all builders. -/
def allFactories (config : Config) (params : AliasTable) : List Java.Member :=
  params.flatMap fun (aliasName, decl) => factories config aliasName decl

/-- The classes that a registry leads to, with what there is to report. -/
def generate (config : Config) (registry : Registry) :
    List Diagnostic × Except ApiError (List ClassDecl) :=
  match wrappers config [] registry.params with
  | .error failure => ([], .error failure)
  | .ok wrapperClasses =>
    let (reports, members) := parserMembers config registry.parsers
    (reports, members.map fun members =>
      wrapperClasses
        ++ [entryClass config registry (allFactories config registry.params) members.accessors,
          extensionsClass config members.extensions])

end FluentHttp.Api
