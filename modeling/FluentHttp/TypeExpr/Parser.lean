import FluentHttp.TypeExpr.Basic
import FluentHttp.TypeExpr.Token

/-!
# FluentHttp.TypeExpr.Parser

Type expressions read from text, by the grammar

    type     ::=  primary ("[" "]")*
    primary  ::=  "void"  |  primitive  |  wildcard  |  name ("<" type ("," type)* ">")?
    wildcard ::=  "?" (("extends" | "super") type)?
    name     ::=  identifier ("." identifier)*

A name with a dot is a class, one without is a type variable, and a type variable takes no
arguments. The keywords `void` and those of the primitive types are only special on their own.

The reader takes one token at a time. What it has read of the types around the current one is its
`Context`, so a token is refused at the first place where no expression goes on with it.
-/

namespace FluentHttp.TypeExpr

/-! ### Errors -/

/-- What was wrong at the place where reading stopped. -/
inductive SyntaxReason where
  /-- A type has to start here. -/
  | expectedType
  /-- A dot is not followed by an identifier. -/
  | expectedSegment
  /-- An argument list neither goes on nor ends. -/
  | expectedCommaOrClose
  /-- A bracket is not closed at once. -/
  | expectedBracket
  /-- A type variable was given arguments. -/
  | variableWithArguments
  /-- Something follows a whole type. -/
  | trailingInput
  deriving DecidableEq, Repr

/-- The wording of a reason. -/
def SyntaxReason.message : SyntaxReason → String
  | expectedType => "expected a type name"
  | expectedSegment => "expected an identifier after '.'"
  | expectedCommaOrClose => "expected ',' or '>'"
  | expectedBracket => "expected ']'"
  | variableWithArguments => "type arguments on a type variable"
  | trailingInput => "unexpected trailing input"

/-- A malformed type expression. -/
structure SyntaxError where
  /-- The whole expression. -/
  input : String
  /-- Where reading stopped, in bytes of UTF-8. -/
  offset : Nat
  reason : SyntaxReason
  deriving DecidableEq, Repr

/-- The wording of a syntax error. -/
def SyntaxError.message (error : SyntaxError) : String :=
  let reason := error.reason.message
  s!"invalid type expression '{error.input}' at offset {error.offset}: {reason}"

/-! ### States of the reader -/

/-- The unfinished types around the one being read. -/
inductive Context where
  /-- None: the type is the whole expression. -/
  | top
  /-- The type is an argument of a name, behind the arguments `before`. -/
  | argument (name : List String) (before : List TypeExpr) (outer : Context)
  /-- The type bounds a wildcard from above. -/
  | upperBound (outer : Context)
  /-- The type bounds a wildcard from below. -/
  | lowerBound (outer : Context)
  deriving Repr

/-- How far the current type has been read. -/
inductive State where
  /-- A type has to start. -/
  | start (context : Context)
  /-- A question mark was read; a bound may follow. -/
  | question (context : Context)
  /-- The segments of a name were read; more may follow. -/
  | name (segments : List String) (context : Context)
  /-- A name and a dot were read. -/
  | dot (segments : List String) (context : Context)
  /-- A type was read; brackets may follow. -/
  | type (type : TypeExpr) (context : Context)
  /-- A type and an opening bracket were read. -/
  | bracket (component : TypeExpr) (context : Context)
  deriving Repr

/-- A name by its segments. -/
def joinName (segments : List String) : String :=
  ".".intercalate segments

/-- The type that a keyword stands for. -/
def keyword? : List String → Option TypeExpr
  | [word] =>
    if word = "void" then some .void
    else (Primitive.ofKeyword? word).map .primitive
  | _ => none

/-- The type that a name without arguments stands for. -/
def ofName (segments : List String) : TypeExpr :=
  match keyword? segments, segments with
  | some type, _ => type
  | none, [word] => .variable word
  | none, _ => .named (joinName segments) []

/-! ### Reading -/

/-- Reads the token after a whole type that no bracket follows. A bound is complete with it, and an
argument list goes on or closes. -/
def Context.read (type : TypeExpr) (token : Token) : Context → Except SyntaxReason State
  | top => .error .trailingInput
  | upperBound outer => outer.read (.wildcard (some type) none) token
  | lowerBound outer => outer.read (.wildcard none (some type)) token
  | argument name before outer =>
    if token = .mark ',' then
      .ok (.start (.argument name (before ++ [type]) outer))
    else if token = .mark '>' then
      if name.length = 1 then .error .variableWithArguments
      else .ok (.type (.named (joinName name) (before ++ [type])) outer)
    else
      .error .expectedCommaOrClose

/-- Reads the token after a whole type. -/
def State.readAfter (type : TypeExpr) (context : Context) (token : Token) :
    Except SyntaxReason State :=
  if token = .mark '[' then .ok (.bracket type context) else context.read type token

/-- Reads the token after a name. -/
def State.readAfterName (segments : List String) (context : Context) (token : Token) :
    Except SyntaxReason State :=
  if token = .mark '.' then
    .ok (.dot segments context)
  else if token = .mark '<' ∧ (keyword? segments).isNone then
    .ok (.start (.argument segments [] context))
  else
    State.readAfter (ofName segments) context token

/-- Reads one token. -/
def State.read : State → Token → Except SyntaxReason State
  | start context, .mark c =>
    if c = '?' then .ok (.question context) else .error .expectedType
  | start context, .word word =>
    if isIdentifier word then .ok (.name [word] context) else .error .expectedType
  | question context, token =>
    if token = .word "extends" then .ok (.start (.upperBound context))
    else if token = .word "super" then .ok (.start (.lowerBound context))
    else State.readAfter (.wildcard none none) context token
  | name segments context, token => State.readAfterName segments context token
  | dot segments context, .word word =>
    if isIdentifier word then .ok (.name (segments ++ [word]) context) else .error .expectedSegment
  | dot _ _, .mark _ => .error .expectedSegment
  | type t context, token => State.readAfter t context token
  | bracket component context, token =>
    if token = .mark ']' then .ok (.type (.array component) context) else .error .expectedBracket

/-- The whole expression, when the text ends after a whole type. -/
def Context.finish (type : TypeExpr) : Context → Except SyntaxReason TypeExpr
  | top => .ok type
  | upperBound outer => outer.finish (.wildcard (some type) none)
  | lowerBound outer => outer.finish (.wildcard none (some type))
  | argument _ _ _ => .error .expectedCommaOrClose

/-- The whole expression, when the text ends. -/
def State.finish : State → Except SyntaxReason TypeExpr
  | start _ => .error .expectedType
  | question context => context.finish (.wildcard none none)
  | name segments context => context.finish (ofName segments)
  | dot _ _ => .error .expectedSegment
  | type t context => context.finish t
  | bracket _ _ => .error .expectedBracket

/-- Where a token is refused: at its start, except that an argument list is only known to be
misplaced when it closes. -/
def SyntaxReason.offset (reason : SyntaxReason) (lexeme : Lexeme) : Nat :=
  if reason = .variableWithArguments then lexeme.stop else lexeme.start

/-- Reads lexemes to the end of a text of the given length. -/
def State.run (length : Nat) : State → List Lexeme → Except (Nat × SyntaxReason) TypeExpr
  | state, [] => state.finish.mapError (length, ·)
  | state, lexeme :: rest =>
    match state.read lexeme.token with
    | .ok next => next.run length rest
    | .error reason => .error (reason.offset lexeme, reason)

/-- The type that a text expresses. -/
def parse (input : String) : Except SyntaxError TypeExpr :=
  ((State.start .top).run input.utf8ByteSize (lexemes 0 input.toList)).mapError
    fun (offset, reason) => { input, offset, reason }

end FluentHttp.TypeExpr
