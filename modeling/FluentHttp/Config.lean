import FluentHttp.Text.Segments

/-!
# FluentHttp.Config

What the generator is told before the first round: the package of the generated classes, the
reactive library they are written for, and two switches. It is read once from the options of the
host, whose keys and values are spelled out here.
-/

namespace FluentHttp

/-! ### Reactive libraries -/

/-- The reactive library that accessors are written for, if any. -/
inductive Reactive where
  | disabled
  | rxJava2
  | rxJava3
  deriving DecidableEq, Repr

namespace Reactive

/-- The name of a choice, as messages give it. -/
def name : Reactive → String
  | disabled => "disabled"
  | rxJava2 => "rxjava2"
  | rxJava3 => "rxjava3"

/-- The words that an option may give for a choice. -/
def spellings : List (String × Reactive) :=
  [("disabled", disabled), ("false", disabled), ("none", disabled), ("rxjava2", rxJava2),
   ("2", rxJava2), ("rxjava3", rxJava3), ("3", rxJava3)]

/-- The choice that a word stands for, in capital or small ASCII letters. -/
def ofName? (word : String) : Option Reactive :=
  spellings.lookup (String.ofList (word.toList.map Char.toLower))

/-- Whether accessors are written at all. -/
def isEnabled (mode : Reactive) : Bool :=
  mode != disabled

/-- The class that accessors return. -/
def observable? : Reactive → Option String
  | disabled => none
  | rxJava2 => some "io.reactivex.Observable"
  | rxJava3 => some "io.reactivex.rxjava3.core.Observable"

end Reactive

/-! ### Configurations -/

/-- The settings of a generator. -/
structure Config where
  /-- The package of the generated classes. -/
  package : String := "rxhttp.wrapper.param"
  reactive : Reactive := .rxJava3
  /-- The generator runs as an aggregating incremental processor. -/
  incremental : Bool := true
  /-- Each round is described by a note. -/
  debug : Bool := false
  deriving DecidableEq, Repr, Inhabited

/-- Why options make no configuration. -/
inductive ConfigError where
  | invalidPackage (name : String)
  | unknownReactive (value : String)
  /-- No input was named. -/
  | missingInput
  deriving DecidableEq, Repr

namespace Config

/-! ### Options -/

/-- The options of a host: values by key, the first entry of a key counting. -/
abbrev Options := List (String × String)

/-- The key of the package of the generated classes. -/
def packageKey : String := "rxhttp_package"

/-- The key of the reactive library. -/
def reactiveKey : String := "rxhttp_rxjava"

/-- The key of the incremental switch, which is on unless it says `false`. -/
def incrementalKey : String := "rxhttp_incremental"

/-- The key of the debug switch, which is off unless it says `true`. -/
def debugKey : String := "rxhttp_debug"

/-- The key by which an incremental generator tells the host that it aggregates. -/
def aggregatingKey : String := "org.gradle.annotation.processing.aggregating"

end Config

/-- The wording of a configuration error. -/
def ConfigError.message : ConfigError → String
  | invalidPackage name => s!"invalid package name '{name}'"
  | unknownReactive value =>
    s!"unknown {Config.reactiveKey} value '{value}' (expected rxjava2, rxjava3 or false)"
  | missingInput => "--input is required"

namespace Config

/-- Whether a name has only non-empty segments between its dots. -/
def isPackageName (name : String) : Bool :=
  (Text.segments '.' name).all (!·.isEmpty)

/-- The configuration with another package. -/
def withPackage (config : Config) (name : String) : Except ConfigError Config :=
  if isPackageName name then .ok { config with package := name }
  else .error (.invalidPackage name)

/-- The configuration that options make. The package is looked at before the reactive library. -/
def ofOptions (options : Options) : Except ConfigError Config := do
  let config ← match options.lookup packageKey with
    | some name => withPackage {} name
    | none => .ok {}
  let reactive ← match options.lookup reactiveKey with
    | some value =>
      match Reactive.ofName? value with
      | some mode => .ok mode
      | none => .error (.unknownReactive value)
    | none => .ok config.reactive
  return { config with
    reactive
    incremental := options.lookup incrementalKey != some "false"
    debug := options.lookup debugKey == some "true" }

/-- The option keys that a host should pass on. -/
def supportedOptions (config : Config) : List String :=
  [reactiveKey, packageKey, incrementalKey, debugKey]
    ++ if config.incremental then [aggregatingKey] else []

/-- The qualified name of a generated class. -/
def qualified (config : Config) (name : String) : String :=
  config.package ++ "." ++ name

end Config

end FluentHttp
