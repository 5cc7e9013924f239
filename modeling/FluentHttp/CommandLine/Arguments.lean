import FluentHttp.Config

/-!
# FluentHttp.CommandLine.Arguments

The words of the command line. They are read from left to right, and the first thing that is wrong
ends it, as does a request for help or for the version.

A setting has a long name, and some have a letter. Letters without a value can stand together in one
word. A value stands in the same word, after an equals sign where the name is long, or in the next
word, which must not look like a setting itself.
-/

namespace FluentHttp.CommandLine

/-! ### Settings -/

/-- A setting that takes a value. -/
inductive ValueSetting where
  | input
  | output
  /-- An option of the generator, as key and value. -/
  | option
  | package
  | rxjava
  deriving DecidableEq, Repr

/-- A setting that takes no value. -/
inductive Switch where
  | dryRun
  | debug
  | noIncremental
  | verbose
  | json
  | printOptions
  | help
  | version
  deriving DecidableEq, Repr

/-- A setting. -/
inductive Setting where
  | valued (setting : ValueSetting)
  | switch (switch : Switch)
  deriving DecidableEq, Repr

namespace Setting

/-- The long names. -/
def names : List (String × Setting) :=
  [("input", .valued .input), ("output", .valued .output), ("package", .valued .package),
   ("rxjava", .valued .rxjava), ("dry-run", .switch .dryRun), ("debug", .switch .debug),
   ("no-incremental", .switch .noIncremental), ("verbose", .switch .verbose),
   ("json", .switch .json), ("print-options", .switch .printOptions), ("help", .switch .help),
   ("version", .switch .version)]

/-- The letters. -/
def letters : List (Char × Setting) :=
  [('i', .valued .input), ('o', .valued .output), ('A', .valued .option),
   ('v', .switch .verbose), ('h', .switch .help), ('V', .switch .version)]

end Setting

/-- How a setting that takes a value is written. -/
def ValueSetting.spelling : ValueSetting → String
  | input => "--input"
  | output => "--output"
  | option => "-A"
  | package => "--package"
  | rxjava => "--rxjava"

/-- How a setting without value is written. -/
def Switch.spelling : Switch → String
  | dryRun => "--dry-run"
  | debug => "--debug"
  | noIncremental => "--no-incremental"
  | verbose => "--verbose"
  | json => "--json"
  | printOptions => "--print-options"
  | help => "--help"
  | version => "--version"

/-! ### Arguments -/

/-- Where sources go unless told otherwise. -/
def defaultOutput : String := "build/generated/source/rxgen"

/-- The settings of a command line. -/
structure Arguments where
  input : Option String := none
  output : Option String := none
  /-- The options of the generator, the last one first. -/
  options : List (String × String) := []
  package : Option String := none
  rxjava : Option String := none
  dryRun : Bool := false
  debug : Bool := false
  noIncremental : Bool := false
  verbose : Nat := 0
  json : Bool := false
  printOptions : Bool := false
  deriving DecidableEq, Repr, Inhabited

/-- Why words are no command line. -/
inductive UsageError where
  /-- A word that is not a setting, or a setting that there is not. -/
  | unexpected (word : String)
  | missingValue (setting : ValueSetting)
  /-- A setting that takes no value is given one. -/
  | needlessValue (switch : Switch)
  /-- A setting that can be given once is given again. -/
  | repeated (spelling : String)
  /-- An option of the generator without key, or without value. -/
  | malformedOption (text : String)
  /-- No input is named, and none can be done without. -/
  | missingInput
  deriving DecidableEq, Repr

/-- The wording of a usage error. -/
def UsageError.message : UsageError → String
  | unexpected word => s!"unexpected argument '{word}' found"
  | missingValue setting => s!"a value is required for '{setting.spelling}' but none was supplied"
  | needlessValue switch => s!"'{switch.spelling}' takes no value"
  | repeated spelling => s!"the argument '{spelling}' cannot be used multiple times"
  | malformedOption text => s!"expected KEY=VALUE, got '{text}'"
  | missingInput => "the argument '--input' is required"

/-- What ends the reading of words before their end. -/
inductive Stop where
  | help
  | version
  | usage (error : UsageError)
  deriving DecidableEq, Repr

namespace Arguments

/-- A text cut at the first equals sign. -/
def splitAssignment (text : List Char) : List Char × Option (List Char) :=
  match text.span (· != '=') with
  | (key, _ :: value) => (key, some value)
  | (key, []) => (key, none)

/-- Takes a setting that can be given once. -/
def once (setting : ValueSetting) (previous : Option String) (arguments : Arguments) :
    Except Stop Arguments :=
  if previous.isSome then .error (.usage (.repeated setting.spelling)) else .ok arguments

/-- Takes the name of a file or a directory, which cannot be empty. -/
def named (setting : ValueSetting) (value : String) (previous : Option String)
    (arguments : Arguments) : Except Stop Arguments :=
  if value.isEmpty then .error (.usage (.missingValue setting))
  else once setting previous arguments

/-- Takes the value of a setting. -/
def give (arguments : Arguments) (setting : ValueSetting) (value : String) :
    Except Stop Arguments :=
  match setting with
  | .input => named setting value arguments.input { arguments with input := some value }
  | .output => named setting value arguments.output { arguments with output := some value }
  | .package => once setting arguments.package { arguments with package := some value }
  | .rxjava => once setting arguments.rxjava { arguments with rxjava := some value }
  | .option =>
    match splitAssignment value.toList with
    | ([], _) | (_, none) => .error (.usage (.malformedOption value))
    | (key, some content) =>
      .ok { arguments with
        options := (String.ofList key, String.ofList content) :: arguments.options }

/-- Turns a switch on that can be given once. -/
def turnOnce (switch : Switch) (previous : Bool) (arguments : Arguments) :
    Except Stop Arguments :=
  if previous then .error (.usage (.repeated switch.spelling)) else .ok arguments

/-- Turns a switch on. -/
def turnOn (arguments : Arguments) (switch : Switch) : Except Stop Arguments :=
  match switch with
  | .dryRun => turnOnce switch arguments.dryRun { arguments with dryRun := true }
  | .debug => turnOnce switch arguments.debug { arguments with debug := true }
  | .noIncremental =>
    turnOnce switch arguments.noIncremental { arguments with noIncremental := true }
  | .json => turnOnce switch arguments.json { arguments with json := true }
  | .printOptions => turnOnce switch arguments.printOptions { arguments with printOptions := true }
  | .verbose => .ok { arguments with verbose := arguments.verbose + 1 }
  | .help => .error .help
  | .version => .error .version

/-! ### Words -/

/-- The arguments after a word, with the setting that waits for the next word as its value. -/
abbrev Progress := Arguments × Option ValueSetting

/-- Reads a long name, with a value that may follow an equals sign. -/
def readLong (arguments : Arguments) (word : String) (text : List Char) :
    Except Stop Progress :=
  let (name, value) := splitAssignment text
  match Setting.names.lookup (String.ofList name), value with
  | none, _ => .error (.usage (.unexpected word))
  | some (.valued setting), some value =>
    return (← arguments.give setting (String.ofList value), none)
  | some (.valued setting), none => .ok (arguments, some setting)
  | some (.switch switch), some _ => .error (.usage (.needlessValue switch))
  | some (.switch switch), none => return (← arguments.turnOn switch, none)

/-- Reads letters. What follows a letter that takes a value is the value, with or without an equals
sign in front. -/
def readLetters (arguments : Arguments) (word : String) : List Char → Except Stop Progress
  | [] => .ok (arguments, none)
  | letter :: rest =>
    match Setting.letters.lookup letter, rest with
    | none, _ => .error (.usage (.unexpected word))
    | some (.switch switch), _ => do readLetters (← arguments.turnOn switch) word rest
    | some (.valued setting), [] => .ok (arguments, some setting)
    | some (.valued setting), '=' :: value =>
      return (← arguments.give setting (String.ofList value), none)
    | some (.valued setting), value =>
      return (← arguments.give setting (String.ofList value), none)

/-- Whether a word looks like a setting. A hyphen on its own does not. -/
def looksLikeSetting (word : String) : Bool :=
  match word.toList with
  | '-' :: _ :: _ => true
  | _ => false

/-- Reads a word that is not a value. -/
def readWord (arguments : Arguments) (word : String) : Except Stop Progress :=
  match word.toList with
  | '-' :: '-' :: text => arguments.readLong word text
  | '-' :: letter :: rest => arguments.readLetters word (letter :: rest)
  | _ => .error (.usage (.unexpected word))

/-- Reads the words of a command line. Two hyphens on their own end the settings, and nothing else
may follow them. -/
def readWords : Progress → List String → Except Stop Arguments
  | (arguments, none), [] => .ok arguments
  | (_, some setting), [] => .error (.usage (.missingValue setting))
  | (arguments, some setting), word :: rest =>
    if looksLikeSetting word then .error (.usage (.missingValue setting))
    else do readWords (← arguments.give setting word, none) rest
  | (arguments, none), word :: rest =>
    if word = "--" then
      match rest with
      | [] => .ok arguments
      | extra :: _ => .error (.usage (.unexpected extra))
    else do readWords (← arguments.readWord word) rest

/-! ### Options of the generator -/

/-- The options of the generator. Settings of their own come before options that are given by key,
and of these the later ones before the earlier ones. -/
def generatorOptions (arguments : Arguments) : Config.Options :=
  (arguments.package.toList.map fun value => (Config.packageKey, value))
    ++ (arguments.rxjava.toList.map fun value => (Config.reactiveKey, value))
    ++ (if arguments.debug then [(Config.debugKey, "true")] else [])
    ++ (if arguments.noIncremental then [(Config.incrementalKey, "false")] else [])
    ++ arguments.options

end Arguments

/-! ### Commands -/

/-- The variables of an environment. -/
abbrev Environment := String → Option String

/-- What a command line asks for. -/
inductive Command where
  | help
  | version
  /-- The option keys that the configuration supports. -/
  | printOptions (arguments : Arguments)
  /-- A round of generation. -/
  | generate (arguments : Arguments)
  deriving DecidableEq, Repr

namespace Command

/-- The arguments, with what the environment says about settings that were not given. -/
def completed (environment : Environment) (arguments : Arguments) : Arguments :=
  { arguments with
    package := arguments.package <|> environment "RXHTTP_PACKAGE"
    rxjava := arguments.rxjava <|> environment "RXHTTP_RXJAVA" }

/-- The command of the words of a command line. -/
def ofWords (environment : Environment) (words : List String) : Except UsageError Command :=
  match Arguments.readWords ({}, none) words with
  | .error .help => .ok .help
  | .error .version => .ok .version
  | .error (.usage error) => .error error
  | .ok arguments =>
    let arguments := completed environment arguments
    if arguments.printOptions then .ok (.printOptions arguments)
    else if arguments.input.isNone then .error .missingInput
    else .ok (.generate arguments)

end Command

end FluentHttp.CommandLine
