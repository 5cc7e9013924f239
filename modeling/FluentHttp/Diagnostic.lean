import FluentHttp.Json.Basic

/-!
# FluentHttp.Diagnostic

What the generator reports about a round, and how it is shown to people and to tools.
-/

namespace FluentHttp

/-! ### Diagnostics -/

/-- How serious a diagnostic is. -/
inductive Severity where
  | error
  | warning
  | note
  deriving DecidableEq, Repr

namespace Severity

/-- All severities. -/
def all : List Severity :=
  [error, warning, note]

/-- The word for a severity. -/
def label : Severity → String
  | error => "error"
  | warning => "warning"
  | note => "note"

/-- The severity of a word. -/
def ofLabel? (word : String) : Option Severity :=
  all.find? (·.label == word)

end Severity

/-- A message about a declaration, or about a round as a whole. -/
structure Diagnostic where
  severity : Severity
  /-- The qualified name of the declaration. -/
  declaration : Option String
  message : String
  deriving DecidableEq, Repr

namespace Diagnostic

/-- Whether the diagnostic is an error. -/
def isError (diagnostic : Diagnostic) : Bool :=
  diagnostic.severity == .error

/-- A diagnostic on one line. -/
def text (diagnostic : Diagnostic) : String :=
  let label := diagnostic.severity.label
  match diagnostic.declaration with
  | some declaration => s!"{label}: {declaration}: {diagnostic.message}"
  | none => s!"{label}: {diagnostic.message}"

/-- A diagnostic as JSON. -/
def toJson (diagnostic : Diagnostic) : Json :=
  .object <| [("severity", .string diagnostic.severity.label)]
    ++ diagnostic.declaration.toList.map (("declaration", .string ·))
    ++ [("message", .string diagnostic.message)]

/-- The number of errors among diagnostics. -/
def errorCount (diagnostics : List Diagnostic) : Nat :=
  diagnostics.countP isError

end Diagnostic

/-! ### The terminal -/

/-- A way of setting off text on a terminal. -/
inductive Style where
  | bold
  | red
  | boldRed
  | boldYellow
  | boldCyan
  | green
  deriving DecidableEq, Repr

namespace Style

/-- The escape sequence that starts a style. -/
def start : Style → String
  | bold => "\x1b[1m"
  | red => "\x1b[31m"
  | boldRed => "\x1b[1;31m"
  | boldYellow => "\x1b[1;33m"
  | boldCyan => "\x1b[1;36m"
  | green => "\x1b[32m"

/-- The escape sequence that ends every style. -/
def stop : String := "\x1b[0m"

/-- Text in a style, if colour is on. Where the text itself ends a style, this one starts anew. -/
def paint (style : Style) (colour : Bool) (text : String) : String :=
  if colour then style.start ++ text.replace stop (stop ++ style.start) ++ stop else text

end Style

/-- The style of the label of a severity. -/
def Severity.style : Severity → Style
  | error => .boldRed
  | warning => .boldYellow
  | note => .boldCyan

/-- A diagnostic as the console shows it. -/
def Diagnostic.consoleText (colour : Bool) (diagnostic : Diagnostic) : String :=
  let label := diagnostic.severity.style.paint colour diagnostic.severity.label
  match diagnostic.declaration with
  | some declaration =>
    label ++ ": " ++ Style.bold.paint colour declaration ++ " " ++ diagnostic.message
  | none => label ++ ": " ++ diagnostic.message

end FluentHttp
