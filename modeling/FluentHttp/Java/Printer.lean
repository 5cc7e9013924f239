import FluentHttp.Java.Imports
import FluentHttp.TypeExpr.Printer

/-!
# FluentHttp.Java.Printer

The source text of a class. Four blanks are one level of indentation, members are set apart by an
empty line, and the order of everything is the order of the tree.

In string literals the quote, the backslash, line ends and tabs are escaped; all other characters
stand for themselves.
-/

namespace FluentHttp.Java

/-! ### String literals -/

/-- A character as it stands in a string literal. -/
def escape (c : Char) : List Char :=
  if c = '"' then ['\\', '"']
  else if c = '\\' then ['\\', '\\']
  else if c = '\n' then ['\\', 'n']
  else if c = '\r' then ['\\', 'r']
  else if c = '\t' then ['\\', 't']
  else [c]

/-- The string literal of a text. -/
def quote (text : String) : String :=
  String.ofList ('"' :: text.toList.flatMap escape ++ ['"'])

/-! ### Expressions -/

/-- Whether an expression needs parentheses where something is selected from it. -/
def Expr.isOpen : Expr → Bool
  | .cast _ _ | .compare _ _ _ => true
  | _ => false

/-- Text in parentheses, if it needs them. -/
def parenthesize (needed : Bool) (text : String) : String :=
  if needed then "(" ++ text ++ ")" else text

/-- The operator of a comparison. -/
def Comparison.text : Comparison → String
  | equal => "=="
  | notEqual => "!="

/-- A type without type arguments, as class literals take it. -/
def erasedText (naming : String → String) : TypeExpr → String
  | .named name _ => naming name
  | .array component => erasedText naming component ++ "[]"
  | type => type.textWith naming

mutual

/-- The text of an expression. -/
def Expr.text (naming : String → String) : Expr → String
  | .this => "this"
  | .superCall args => "super(" ++ Expr.argsText naming args ++ ")"
  | .variable name => name
  | .null => "null"
  | .int value => toString value
  | .string value => quote value
  | .field target name => parenthesize target.isOpen (target.text naming) ++ "." ++ name
  | .staticField owner name => naming owner.name ++ "." ++ name
  | .call target method args =>
    parenthesize target.isOpen (target.text naming) ++ "." ++ method
      ++ "(" ++ Expr.argsText naming args ++ ")"
  | .localCall method args => method ++ "(" ++ Expr.argsText naming args ++ ")"
  | .staticCall owner method args =>
    naming owner.name ++ "." ++ method ++ "(" ++ Expr.argsText naming args ++ ")"
  | .newObject type diamond args =>
    "new " ++ type.toType.textWith naming ++ (if diamond && type.args.isEmpty then "<>" else "")
      ++ "(" ++ Expr.argsText naming args ++ ")"
  | .newSubclass type args =>
    "new " ++ type.textWith naming ++ "(" ++ Expr.argsText naming args ++ ") \x7b\x7d"
  | .newArray component elements =>
    "new " ++ component.textWith naming ++ "[]\x7b" ++ Expr.argsText naming elements ++ "\x7d"
  | .cast type expr => "(" ++ type.textWith naming ++ ") " ++ expr.text naming
  | .classLiteral type => erasedText naming type ++ ".class"
  | .compare op left right => left.text naming ++ " " ++ op.text ++ " " ++ right.text naming

/-- The text of arguments, separated by commas. -/
def Expr.argsText (naming : String → String) : List Expr → String
  | [] => ""
  | [arg] => arg.text naming
  | arg :: next :: rest => arg.text naming ++ ", " ++ Expr.argsText naming (next :: rest)

end

/-! ### Statements -/

/-- The blanks in front of a line. -/
def indent (depth : Nat) : String :=
  String.join (List.replicate depth "    ")

mutual

/-- The lines of a statement. -/
def Stmt.text (naming : String → String) (depth : Nat) : Stmt → String
  | .evaluate expr => indent depth ++ expr.text naming ++ ";\n"
  | .result expr => indent depth ++ "return " ++ expr.text naming ++ ";\n"
  | .declare type name init =>
    indent depth ++ type.textWith naming ++ " " ++ name ++ " = " ++ init.text naming ++ ";\n"
  | .assign target value =>
    indent depth ++ target.text naming ++ " = " ++ value.text naming ++ ";\n"
  | .when condition body =>
    indent depth ++ "if (" ++ condition.text naming ++ ") \x7b\n"
      ++ Stmt.bodyText naming (depth + 1) body ++ indent depth ++ "\x7d\n"
  | .raise expr => indent depth ++ "throw " ++ expr.text naming ++ ";\n"

/-- The lines of statements. -/
def Stmt.bodyText (naming : String → String) (depth : Nat) : List Stmt → String
  | [] => ""
  | stmt :: rest => stmt.text naming depth ++ Stmt.bodyText naming depth rest

end

/-! ### Members -/

/-- Modifiers in front of a declaration. -/
def modifiersText (modifiers : Modifiers) : String :=
  if modifiers.isEmpty then "" else modifiers.text ++ " "

/-- Type parameters in angle brackets, or nothing. -/
def typeParamsText (naming : String → String) (params : List TypeParam) : String :=
  if params.isEmpty then ""
  else "<" ++ ", ".intercalate (params.map (·.textWith naming)) ++ ">"

/-- The text of parameters. The last one, if it takes any number of arguments, shows the type of
one. -/
def paramTexts (naming : String → String) (varargs : Bool) : List Parameter → List String
  | [] => []
  | [{ name, type := .array component }] =>
    [component.textWith naming ++ (if varargs then "... " else "[] ") ++ name]
  | param :: rest =>
    (param.type.textWith naming ++ " " ++ param.name) :: paramTexts naming varargs rest

/-- The line of a field. -/
def Field.text (naming : String → String) (field : Field) : String :=
  indent 1 ++ modifiersText field.modifiers ++ field.type.textWith naming ++ " " ++ field.name
    ++ ";\n"

/-- What stands in front of the body of a member. -/
def Member.signature (naming : String → String) (member : Member) : String :=
  let typeParams := typeParamsText naming member.typeParams
  let returnType := member.returnType.elim "" fun type => type.textWith naming ++ " "
  let params := ", ".intercalate (paramTexts naming member.varargs member.params)
  let throws :=
    if member.throws.isEmpty then ""
    else " throws " ++ ", ".intercalate (member.throws.map (·.textWith naming))
  modifiersText member.modifiers ++ (if member.typeParams.isEmpty then "" else typeParams ++ " ")
    ++ returnType ++ member.name ++ "(" ++ params ++ ")" ++ throws

/-- The lines of a member. -/
def Member.text (naming : String → String) (member : Member) : String :=
  indent 1 ++ member.signature naming ++ " \x7b\n" ++ Stmt.bodyText naming 2 member.body
    ++ indent 1 ++ "\x7d\n"

/-! ### Classes -/

/-- The first line of every generated file. -/
def header : String :=
  "// Generated by rxgen. Do not edit."

/-- The lines of a class's documentation. -/
def docText (doc : List String) : String :=
  if doc.isEmpty then ""
  else "/**\n" ++ String.join (doc.map fun line => " * " ++ line ++ "\n") ++ " */\n"

/-- The line that starts a class. -/
def ClassDecl.signature (naming : String → String) (decl : ClassDecl) : String :=
  modifiersText decl.modifiers ++ "class " ++ decl.name ++ typeParamsText naming decl.typeParams
    ++ decl.superclass.elim "" fun type => " extends " ++ type.textWith naming

/-- The source text of a class. -/
def ClassDecl.source (decl : ClassDecl) : String :=
  let imports := Imports.ofClass decl
  let naming := imports.naming
  let packageLine := if decl.package.isEmpty then "" else "package " ++ decl.package ++ ";\n"
  let importLines :=
    if imports.lines.isEmpty then ""
    else String.join (imports.lines.map fun name => "import " ++ name ++ ";\n") ++ "\n"
  let fields :=
    if decl.fields.isEmpty then "" else "\n" ++ String.join (decl.fields.map (·.text naming))
  let members := String.join (decl.members.map fun member => "\n" ++ member.text naming)
  header ++ "\n" ++ packageLine ++ "\n" ++ importLines ++ docText decl.doc
    ++ decl.signature naming ++ " \x7b\n" ++ fields ++ members ++ "\x7d\n"

end FluentHttp.Java
