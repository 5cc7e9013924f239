import FluentHttp.Declaration.Basic
import FluentHttp.Json.Outline
import FluentHttp.TypeExpr.Parser

/-!
# FluentHttp.Declaration.Reader

Rounds read from JSON documents.

A document is read in order, and the first thing wrong with it is what it is refused for. Keys that
a record does not know are passed over, keys that it does know may come in any order but only once,
and those without a default have to come. A record may also be written as the array of its values
in the order of its keys, the last of them left out.

Members and annotations are told apart by the key `kind`, wherever it stands. So the whole object
is read and stored before its other keys are looked at. In a value that has been stored, an empty
object will do where null is meant.
-/

namespace FluentHttp

open Json (Outline Entry)

/-! ### Failures -/

/-- Why a document is refused. -/
inductive DocumentError where
  /-- The text is not JSON, or holds what cannot be stored. -/
  | notJson
  /-- A value is of the wrong kind. -/
  | wrongKind (expected : String)
  /-- A word is none of those that may stand here. -/
  | unknownWord (word : String)
  /-- A key is given twice. -/
  | repeatedKey (key : String)
  /-- A key is not given. -/
  | missingKey (key : String)
  /-- A type expression is malformed. -/
  | type (error : TypeExpr.SyntaxError)
  deriving DecidableEq, Repr

/-- The wording of a failure. -/
def DocumentError.message : DocumentError → String
  | notJson => "not a JSON document"
  | wrongKind expected => "expected " ++ expected
  | unknownWord word => "unknown word '" ++ word ++ "'"
  | repeatedKey key => "repeated key '" ++ key ++ "'"
  | missingKey key => "missing key '" ++ key ++ "'"
  | type error => error.message

namespace Reader

/-! ### Values -/

/-- The failure of an outline that was expected to be of some kind. -/
def mismatch (expected : String) : Outline → DocumentError
  | .broken => .notJson
  | .string none => .notJson
  | _ => .wrongKind expected

/-- Reads a text. -/
def text : Outline → Except DocumentError String
  | .string (some value) => .ok value
  | other => .error (mismatch "a string" other)

/-- Reads a truth value. -/
def bool : Outline → Except DocumentError Bool
  | .bool value => .ok value
  | other => .error (mismatch "a boolean" other)

/-- Reads a list. -/
def list (read : Outline → Except DocumentError α) : Outline → Except DocumentError (List α)
  | .array items => items.mapM read
  | other => .error (mismatch "an array" other)

/-- Reads a value that may be null. -/
def option (read : Outline → Except DocumentError α) : Outline → Except DocumentError (Option α)
  | .null => .ok none
  | other => some <$> read other

/-- Reads a type expression. -/
def type (outline : Outline) : Except DocumentError TypeExpr := do
  (TypeExpr.parse (← text outline)).mapError .type

/-- Whether a value says nothing: it is null or, if it has been stored, an empty object. -/
def isNothing (stored : Bool) : Outline → Bool
  | .null => true
  | .object [] => stored
  | _ => false

/-- Reads a modifier: its keyword, or an object that maps the keyword to nothing. -/
def modifier (stored : Bool) (outline : Outline) : Except DocumentError Modifier := do
  let word ← match outline with
    | .object [(some word, value)] =>
      if isNothing stored value then .ok word else .error (mismatch "null" value)
    | other => text other
  match Modifier.ofKeyword? word with
  | some modifier => .ok modifier
  | none => .error (.unknownWord word)

/-- Reads a set of modifiers. -/
def modifiers (stored : Bool) (outline : Outline) : Except DocumentError Modifiers :=
  Modifiers.ofList <$> list (modifier stored) outline

/-- Passes over a value that nothing asks for. -/
def skip (outline : Outline) : Except DocumentError Unit :=
  if outline.isIntact then .ok () else .error .notJson

/-! ### Records -/

/-- The values of an array under the keys of a record; a value too many has no key. -/
def positional : List String → List Outline → List Entry
  | _, [] => []
  | [], value :: _ => [(none, value)]
  | key :: keys, value :: values => (some key, value) :: positional keys values

/-- The entries of a record with the given keys. -/
def entries (keys : List String) : Outline → Except DocumentError (List Entry)
  | .object entries => .ok entries
  | .array values => .ok (positional keys values)
  | other => .error (mismatch "an object" other)

/-- Reads the entries of a record one by one, with the keys seen so far. -/
def readEntries (keys : List String) (put : α → String → Outline → Except DocumentError α) :
    α → List String → List Entry → Except DocumentError (α × List String)
  | record, seen, [] => .ok (record, seen)
  | _, _, (none, _) :: _ => .error .notJson
  | record, seen, (some key, value) :: rest =>
    if key ∈ keys then
      if key ∈ seen then .error (.repeatedKey key)
      else do readEntries keys put (← put record key value) (key :: seen) rest
    else do
      skip value
      readEntries keys put record seen rest

/-- Reads a record: `put` stores the value of a known key in it, `blank` holds the defaults, and the
keys of `required` have none. -/
def record (keys required : List String) (put : α → String → Outline → Except DocumentError α)
    (blank : α) (outline : Outline) : Except DocumentError α := do
  let (record, seen) ← readEntries keys put blank [] (← entries keys outline)
  match required.find? (· ∉ seen) with
  | some key => .error (.missingKey key)
  | none => .ok record

/-! ### Records told apart by their kind -/

/-- Finds the kind among entries and checks that all others can be stored until it is known. -/
def findKind (depth : Nat) (kinds : List (String × α)) :
    Option α → List Entry → Except DocumentError (Option α)
  | kind?, [] => .ok kind?
  | _, (none, _) :: _ => .error .notJson
  | kind?, (some key, value) :: rest =>
    if key = "kind" then
      if kind?.isSome then .error (.repeatedKey key)
      else do
        let word ← text value
        match kinds.lookup word with
        | some kind => findKind depth kinds (some kind) rest
        | none => .error (.unknownWord word)
    else if value.isStorable depth then findKind depth kinds kind? rest
    else .error .notJson

/-- Reads a record of one of several kinds, each with a reader for the rest of its entries. Its
values may nest no deeper than `depth`. -/
def tagged (depth : Nat) (kinds : List (String × (Outline → Except DocumentError α)))
    (outline : Outline) : Except DocumentError α := do
  let (all, rest) ← match outline with
    | .object entries => .ok (entries, .object (entries.filter (·.1 != some "kind")))
    | .array (kind :: values) =>
      .ok ((some "kind", kind) :: values.map ((some "", ·)), .array values)
    | .array [] => .error (.missingKey "kind")
    | other => .error (mismatch "an object" other)
  match ← findKind depth kinds none all with
  | some read => read rest
  | none => .error (.missingKey "kind")

/-! ### Declarations -/

/-- The deepest nesting of a document whose values are stored. -/
def nestingLimit : Nat := 127

/-- Reads a type parameter. -/
def typeParam : Outline → Except DocumentError TypeParam :=
  record ["name", "bounds"] ["name"]
    (fun param key value => do
      match key with
      | "name" => return { param with name := ← text value }
      | "bounds" => return { param with bounds := ← list type value }
      | _ => return param)
    { name := "" }

/-- Reads a parameter. -/
def parameter : Outline → Except DocumentError Parameter :=
  record ["name", "type"] ["name", "type"]
    (fun param key value => do
      match key with
      | "name" => return { param with name := ← text value }
      | "type" => return { param with type := ← type value }
      | _ => return param)
    { name := "", type := .void }

/-- Reads a method. -/
def method : Outline → Except DocumentError MethodDecl :=
  record
    ["name", "modifiers", "type_params", "params", "return_type", "throws", "varargs", "overrides"]
    ["name"]
    (fun decl key value => do
      match key with
      | "name" => return { decl with name := ← text value }
      | "modifiers" => return { decl with modifiers := ← modifiers true value }
      | "type_params" => return { decl with typeParams := ← list typeParam value }
      | "params" => return { decl with params := ← list parameter value }
      | "return_type" => return { decl with returnType := ← type value }
      | "throws" => return { decl with throws := ← list type value }
      | "varargs" => return { decl with varargs := ← bool value }
      | "overrides" => return { decl with overrides := ← bool value }
      | _ => return decl)
    { name := "" }

/-- Reads a constructor. -/
def constructor : Outline → Except DocumentError ConstructorDecl :=
  record ["modifiers", "params", "throws", "varargs"] []
    (fun decl key value => do
      match key with
      | "modifiers" => return { decl with modifiers := ← modifiers true value }
      | "params" => return { decl with params := ← list parameter value }
      | "throws" => return { decl with throws := ← list type value }
      | "varargs" => return { decl with varargs := ← bool value }
      | _ => return decl)
    {}

/-- Reads a member, which stands inside four containers. -/
def member : Outline → Except DocumentError Member :=
  tagged (nestingLimit - 5)
    [("method", fun rest => .method <$> method rest),
     ("constructor", fun rest => .constructor <$> constructor rest)]

/-- Reads an annotation that is a name and nothing else. -/
def namedAnnotation (build : String → Annotation) : Outline → Except DocumentError Annotation :=
  fun rest => build <$> record ["name"] [] (fun _ _ value => text value) "" rest

/-- Reads an annotation, which stands inside three containers. -/
def annotation : Outline → Except DocumentError Annotation :=
  tagged (nestingLimit - 4)
    [("param", fun rest =>
        .param <$> record ["method_name"] ["method_name"] (fun _ _ value => text value) "" rest),
     ("parser", fun rest => do
        let (name, wrappers) ← record ["name", "wrappers"] ["name"]
          (fun (name, wrappers) key value => do
            match key with
            | "name" => return (← text value, wrappers)
            | "wrappers" => return (name, ← list type value)
            | _ => return (name, wrappers))
          ("", []) rest
        return .parser name wrappers),
     ("converter", namedAnnotation .converter),
     ("ok_client", namedAnnotation .okClient),
     ("domain", namedAnnotation .domain),
     ("default_domain", fun rest =>
        record [] [] (fun annotation _ _ => .ok annotation) .defaultDomain rest)]

/-- Reads a class. -/
def typeDecl : Outline → Except DocumentError TypeDecl :=
  record
    ["name", "modifiers", "type_params", "superclass", "interfaces", "members", "annotation"]
    ["name"]
    (fun decl key value => do
      match key with
      | "name" => return { decl with name := ← text value }
      | "modifiers" => return { decl with modifiers := ← modifiers false value }
      | "type_params" => return { decl with typeParams := ← list typeParam value }
      | "superclass" => return { decl with superclass := ← option type value }
      | "interfaces" => return { decl with interfaces := ← list type value }
      | "members" => return { decl with members := ← list member value }
      | "annotation" => return { decl with annotation := ← option annotation value }
      | _ => return decl)
    { name := "" }

/-- Reads a field. -/
def fieldDecl : Outline → Except DocumentError FieldDecl :=
  record ["owner", "name", "modifiers", "type", "annotation"] ["owner", "name", "type"]
    (fun field key value => do
      match key with
      | "owner" => return { field with owner := ← text value }
      | "name" => return { field with name := ← text value }
      | "modifiers" => return { field with modifiers := ← modifiers false value }
      | "type" => return { field with type := ← type value }
      | "annotation" => return { field with annotation := ← option annotation value }
      | _ => return field)
    { owner := "", name := "", type := .void }

/-- Reads a round. -/
def round : Outline → Except DocumentError Round :=
  record ["types", "fields"] []
    (fun round key value => do
      match key with
      | "types" => return { round with types := ← list typeDecl value }
      | "fields" => return { round with fields := ← list fieldDecl value }
      | _ => return round)
    {}

end Reader

/-- The round that a document describes. -/
def Round.ofOutline (outline : Outline) : Except DocumentError Round :=
  Reader.round outline

/-- The round that the text of a document describes. -/
def Round.ofText (text : String) : Except DocumentError Round := do
  let reading := Json.Reading.ofText text
  let round ← Round.ofOutline reading.root
  if reading.complete then .ok round else .error .notJson

end FluentHttp
