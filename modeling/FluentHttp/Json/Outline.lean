import FluentHttp.Json.Magnitude
import FluentHttp.Json.Token

/-!
# FluentHttp.Json.Outline

What a text says as JSON, as far as it can be read.

A document is refused at the first thing wrong with it, in reading order, whether that is the text
or what it says. So reading the text does not fail: where it stops being JSON, the outline holds the
leaf `broken`, and all that stands before that place is there to be judged first.
-/

namespace FluentHttp.Json

/-- The values of a text, in the order in which they are read. -/
inductive Outline where
  | null
  | bool (value : Bool)
  /-- A number in its written form. -/
  | number (digits : List Char)
  /-- A string, with its text if it denotes one. -/
  | string (text : Option String)
  | array (items : List Outline)
  /-- The entries of an object, repeated keys included. -/
  | object (entries : List (Option String × Outline))
  /-- The text stops being JSON here. -/
  | broken
  deriving Repr, Inhabited

/-- A key, if it denotes a text, with its value. -/
abbrev Entry := Option String × Outline

/-! ### The reader -/

/-- The unfinished containers around the current value, each with what it holds already, the newest
first. -/
inductive Context where
  | top
  | item (before : List Outline) (outer : Context)
  | entry (before : List Entry) (key : Option String) (outer : Context)

/-- What has to come next, inside a container with what it holds already, the newest first. -/
inductive State where
  /-- A value. -/
  | value (context : Context)
  /-- The first item of an array, or its end. -/
  | firstItem (outer : Context)
  /-- A comma, or the end of the array. -/
  | afterItem (items : List Outline) (outer : Context)
  /-- The first key of an object, or its end. -/
  | firstKey (outer : Context)
  /-- A key. -/
  | key (entries : List Entry) (outer : Context)
  /-- The colon behind a key. -/
  | colon (entries : List Entry) (key : Option String) (outer : Context)
  /-- A comma, or the end of the object. -/
  | afterEntry (entries : List Entry) (outer : Context)
  /-- Nothing. -/
  | done (root : Outline)

/-- Goes on after a whole value. -/
def Context.complete (value : Outline) : Context → State
  | top => .done value
  | item before outer => .afterItem (value :: before) outer
  | entry before key outer => .afterEntry ((key, value) :: before) outer

/-- The whole outline, when the text stops being JSON inside a value. -/
def Context.close (value : Outline) : Context → Outline
  | top => value
  | item before outer => outer.close (.array (value :: before).reverse)
  | entry before key outer => outer.close (.object ((key, value) :: before).reverse)

/-- The whole outline, when the text stops being JSON. -/
def State.close : State → Outline
  | .value context => context.close .broken
  | .firstItem outer => outer.close (.array [.broken])
  | .afterItem items outer => outer.close (.array (.broken :: items).reverse)
  | .firstKey outer => outer.close (.object [(none, .broken)])
  | .key entries outer => outer.close (.object ((none, .broken) :: entries).reverse)
  | .colon entries label outer => outer.close (.object ((label, .broken) :: entries).reverse)
  | .afterEntry entries outer => outer.close (.object ((none, .broken) :: entries).reverse)
  | .done root => root

/-- Reads the first token of a value. -/
def State.readValue? (context : Context) : Token → Option State
  | .openObject => some (.firstKey context)
  | .openArray => some (.firstItem context)
  | .null => some (context.complete .null)
  | .bool b => some (context.complete (.bool b))
  | .number digits => some (context.complete (.number digits))
  | .string text => some (context.complete (.string text))
  | .closeObject | .closeArray | .comma | .colon | .invalid => none

/-- Reads one token, if it may stand here. -/
def State.read? : State → Token → Option State
  | .value context, token => State.readValue? context token
  | .firstItem outer, .closeArray => some (outer.complete (.array []))
  | .firstItem outer, token => State.readValue? (.item [] outer) token
  | .afterItem items outer, .comma => some (.value (.item items outer))
  | .afterItem items outer, .closeArray => some (outer.complete (.array items.reverse))
  | .firstKey outer, .closeObject => some (outer.complete (.object []))
  | .firstKey outer, .string label => some (.colon [] label outer)
  | .key entries outer, .string label => some (.colon entries label outer)
  | .colon entries label outer, .colon => some (.value (.entry entries label outer))
  | .afterEntry entries outer, .comma => some (.key entries outer)
  | .afterEntry entries outer, .closeObject => some (outer.complete (.object entries.reverse))
  | _, _ => none

/-- An outline, and whether it accounts for the whole text. -/
structure Reading where
  root : Outline
  /-- The text is one value, with nothing behind it. -/
  complete : Bool
  deriving Repr

/-- Reads tokens to the end or to the first that may not stand where it does. -/
def State.run : State → List Token → Reading
  | .done root, [] => ⟨root, true⟩
  | state, [] => ⟨state.close, false⟩
  | state, token :: rest =>
    match state.read? token with
    | some next => next.run rest
    | none => ⟨state.close, false⟩

/-- Reads a text. -/
def Reading.ofText (text : String) : Reading :=
  (State.value .top).run (tokens text.toList)

/-! ### Judging outlines -/

mutual

/-- Whether the text of a value is JSON throughout. -/
def Outline.isIntact : Outline → Bool
  | .array items => Outline.areIntact items
  | .object entries => Outline.entriesAreIntact entries
  | .broken => false
  | .null | .bool _ | .number _ | .string _ => true

/-- Whether the text of all values is JSON throughout. -/
def Outline.areIntact : List Outline → Bool
  | [] => true
  | item :: rest => item.isIntact && Outline.areIntact rest

/-- Whether the text of all entries is JSON throughout. -/
def Outline.entriesAreIntact : List (Option String × Outline) → Bool
  | [] => true
  | (_, value) :: rest => value.isIntact && Outline.entriesAreIntact rest

end

mutual

/-- Whether a value can be held in memory: its text is JSON throughout, its strings denote texts,
its numbers fit a double, and its containers nest no deeper than `depth`. -/
def Outline.isStorable (depth : Nat) : Outline → Bool
  | .null | .bool _ => true
  | .number digits => fitsDouble digits
  | .string text => text.isSome
  | .array items => depth != 0 && Outline.areStorable (depth - 1) items
  | .object entries => depth != 0 && Outline.entriesAreStorable (depth - 1) entries
  | .broken => false

/-- Whether all values can be held in memory. -/
def Outline.areStorable (depth : Nat) : List Outline → Bool
  | [] => true
  | item :: rest => item.isStorable depth && Outline.areStorable depth rest

/-- Whether all entries can be held in memory. -/
def Outline.entriesAreStorable (depth : Nat) : List (Option String × Outline) → Bool
  | [] => true
  | (key, value) :: rest =>
    key.isSome && value.isStorable depth && Outline.entriesAreStorable depth rest

end

end FluentHttp.Json
