import FluentHttp.CommandLine.Arguments
import FluentHttp.Declaration.Reader
import FluentHttp.Files.SourceTree
import FluentHttp.Session

/-!
# FluentHttp.CommandLine.Program

The program that the command line runs: it reads a round, generates, and writes sources. It is
written for any monad that has files and a console.
-/

namespace FluentHttp.CommandLine

open Files

/-! ### The console -/

/-- The two outputs of a program. -/
class Console (m : Type → Type) where
  /-- Writes to the standard output. -/
  out : String → m Unit
  /-- Writes to the error output. -/
  err : String → m Unit

/-- Whether output is coloured. It can be forced and forbidden, in this order; otherwise it depends
on whether a terminal reads it. -/
def usesColour (environment : Environment) (terminal : Bool) : Bool :=
  if (environment "CLICOLOR_FORCE").any (· != "0") then true
  else if (environment "NO_COLOR").isSome then false
  else environment "CLICOLOR" != some "0" && terminal

/-! ### Failures -/

/-- Why no round was processed, or its classes were not all written. -/
inductive Failure where
  | config (error : ConfigError)
  | unreadable (path : Path) (error : FileError)
  | document (path : Path) (error : DocumentError)
  | unwritable (error : WriteError)

/-- The wording of a failure. -/
def Failure.message : Failure → String
  | config error => s!"Invalid configuration: {error.message}"
  | unreadable path error => s!"Failed to read '{path.text}': {error.message}"
  | document path error => s!"Failed to parse round input '{path.text}': {error.message}"
  | unwritable error =>
    s!"Failed to write output file '{error.path.text}': {error.cause.message}"

/-! ### Steps -/

section

variable {m : Type → Type} [Monad m] [FileSystem m] [Console m]

/-- Reads the round of a file. -/
def loadRound {m : Type → Type} [Monad m] [FileSystem m] (path : Path) :
    ExceptT Failure m Round :=
  ExceptT.mk do
    match ← FileSystem.read path with
    | .error error => return .error (.unreadable path error)
    | .ok content => return (Round.ofText content).mapError (.document path)

/-- A diagnostic as the error output shows it. -/
def reportText (arguments : Arguments) (colour : Bool) (diagnostic : Diagnostic) : String :=
  if arguments.json then diagnostic.toJson.text else diagnostic.consoleText colour

/-- The source of a class as a dry run shows it. -/
def dryRunText (decl : Java.ClassDecl) : String :=
  "// ===== " ++ decl.qualifiedName ++ " =====\n" ++ decl.source ++ "\n"

/-- What delivery does beside noting the paths written. -/
abbrev Delivering (m : Type → Type) := ExceptT WriteError (StateT (List Path) m)

/-- Where the program sends diagnostics and classes. -/
def delivery (arguments : Arguments) (colour : Bool) : Delivery (Delivering m) where
  report diagnostic :=
    liftM (Console.err (reportText arguments colour diagnostic ++ "\n") : m Unit)
  emit decl :=
    if arguments.dryRun then liftM (Console.out (dryRunText decl) : m Unit)
    else writeSource (.ofText (arguments.output.getD defaultOutput)) decl

/-- Generates from the round of the input, and lists the files written if asked to be verbose. -/
def generate (arguments : Arguments) (colour : Bool) : ExceptT Failure m Outcome := do
  let config ← ExceptT.mk <| pure <|
    (Config.ofOptions arguments.generatorOptions).mapError Failure.config
  let input ← match arguments.input with
    | some input => pure input
    | none => throw (.config .missingInput)
  let round ← loadRound (.ofText input)
  let session : Session := { config }
  let (result, written) ← ((session.deliver (delivery arguments colour) round).run.run [] : m _)
  match result with
  | .error error => throw (.unwritable error)
  | .ok (_, outcome) =>
    if arguments.verbose > 0 && !arguments.dryRun then
      written.forM fun path =>
        (Console.err (Style.green.paint colour "wrote" ++ " " ++ path.text ++ "\n") : m Unit)
    return outcome

/-- The text of an error message. -/
def errorText (colour : Bool) (message : String) : String :=
  Style.boldRed.paint colour "error:" ++ " " ++ message ++ "\n"

/-- Generates, and tells the exit code. -/
def runGenerate (arguments : Arguments) (colour : Bool) : m UInt32 := do
  match ← (generate arguments colour).run with
  | .error failure =>
    Console.err (errorText colour failure.message)
    return 1
  | .ok .aborted =>
    Console.err (Style.boldRed.paint colour "generation aborted; see errors above" ++ "\n")
    return 1
  | .ok (.generated classes) =>
    if arguments.verbose > 0 then Console.err s!"Generated {classes.length} types\n"
    return 0
  | .ok .skipped => return 0

/-- Prints the option keys that the configuration supports, and tells the exit code. -/
def runPrintOptions (arguments : Arguments) (colour : Bool) : m UInt32 := do
  match Config.ofOptions arguments.generatorOptions with
  | .ok config =>
    config.supportedOptions.forM fun key => (Console.out (key ++ "\n") : m Unit)
    return 0
  | .error error =>
    Console.err (errorText colour (Failure.config error).message)
    return 1

/-! ### The whole program -/

/-- The name and version of the program. -/
def versionText : String := "rxgen 0.1.0\n"

/-- What help shows. -/
def helpText : String :=
  "Usage: rxgen [OPTIONS] --input <INPUT>\n\n"
    ++ "Options:\n"
    ++ "  -i, --input <INPUT>    JSON file describing the round's declarations\n"
    ++ "  -o, --output <OUTPUT>  Source root for generated files\n"
    ++ "      --dry-run          Print generated code without writing files\n"
    ++ "  -A <KEY=VALUE>         Processor option as KEY=VALUE (repeatable)\n"
    ++ "      --package <NAME>   Package for generated types\n"
    ++ "      --rxjava <MODE>    Reactive integration: rxjava2, rxjava3 or false\n"
    ++ "      --debug            Report a note describing each round\n"
    ++ "      --no-incremental   Run as a non-incremental processor\n"
    ++ "  -v, --verbose          Increase verbosity\n"
    ++ "      --json             Emit diagnostics as JSON\n"
    ++ "      --print-options    Print the supported option keys and exit\n"
    ++ "  -h, --help             Print help\n"
    ++ "  -V, --version          Print version\n"

/-- Runs the program on the words of its command line, and tells the exit code. -/
def run (environment : Environment) (terminal : Bool) (words : List String) : m UInt32 := do
  let colour := usesColour environment terminal
  match Command.ofWords environment words with
  | .error error =>
    Console.err (errorText colour error.message)
    return 2
  | .ok .help =>
    Console.out helpText
    return 0
  | .ok .version =>
    Console.out versionText
    return 0
  | .ok (.printOptions arguments) => runPrintOptions arguments colour
  | .ok (.generate arguments) => runGenerate arguments colour

end

end FluentHttp.CommandLine
