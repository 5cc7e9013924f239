import FluentHttp.Java.Printer

/-!
# FluentHttp.Proofs.Java.Written

Where the names of classes are in source text.

The printer is told how to name classes. Its text is put together of fixed text and of such names,
and only of classes that have been collected before (`Written`). A source file has several parts,
which differ in the type variables that are in scope (`ClassDecl.parts`).
-/

namespace FluentHttp

/-! ### Text with names of classes -/

/-- Text that is put together of fixed text and of the names of some classes, whatever their names
are. -/
inductive Written (classes : List String) : ((String → String) → String) → Prop where
  | fixed (text : String) : Written classes fun _ => text
  | name {name : String} (h : name ∈ classes) : Written classes fun naming => naming name
  | append {first rest : (String → String) → String} (hfirst : Written classes first)
    (hrest : Written classes rest) : Written classes fun naming => first naming ++ rest naming

/-- Texts that are put together like this, as many whatever the names are. -/
def AllWritten (classes : List String) (texts : (String → String) → List String) : Prop :=
  ∃ parts : List ((String → String) → String), (∀ part ∈ parts, Written classes part) ∧
    ∀ naming, texts naming = parts.map (· naming)

section Written

variable {classes : List String}

theorem allWritten_nil : AllWritten classes fun _ => [] :=
  ⟨[], List.forall_mem_nil _, fun _ => rfl⟩

theorem AllWritten.cons {first : (String → String) → String}
    {rest : (String → String) → List String} (hfirst : Written classes first)
    (hrest : AllWritten classes rest) :
    AllWritten classes fun naming => first naming :: rest naming := by
  obtain ⟨parts, hparts, heq⟩ := hrest
  exact ⟨first :: parts, List.forall_mem_cons.2 ⟨hfirst, hparts⟩,
    fun naming => congrArg (first naming :: ·) (heq naming)⟩

theorem allWritten_map {α : Type} {xs : List α} {text : α → (String → String) → String}
    (h : ∀ x ∈ xs, Written classes (text x)) :
    AllWritten classes fun naming => xs.map (text · naming) := by
  refine ⟨xs.map text, List.forall_mem_map.2 h, fun naming => ?_⟩
  rw [List.map_map]
  rfl

theorem AllWritten.join {texts : (String → String) → List String} (h : AllWritten classes texts) :
    Written classes fun naming => String.join (texts naming) := by
  obtain ⟨parts, hparts, heq⟩ := h
  simp only [heq]
  clear heq
  induction parts with
  | nil => exact .fixed ""
  | cons part rest ih =>
      obtain ⟨hpart, hrest⟩ := List.forall_mem_cons.1 hparts
      simp only [List.map_cons, String.join_cons]
      exact .append hpart (ih hrest)

theorem AllWritten.intercalate {texts : (String → String) → List String}
    (h : AllWritten classes texts) (separator : String) :
    Written classes fun naming => separator.intercalate (texts naming) := by
  obtain ⟨parts, hparts, heq⟩ := h
  simp only [heq]
  clear heq
  induction parts with
  | nil => exact .fixed ""
  | cons part rest ih =>
      obtain ⟨hpart, hrest⟩ := List.forall_mem_cons.1 hparts
      -- There is no separator behind the last text.
      cases rest with
      | nil => simpa using hpart
      | cons next rest =>
          simp only [List.map_cons, String.intercalate_cons_cons]
          exact .append (.append hpart (.fixed separator)) (ih hrest)

end Written

/-! ### Types -/

section Types

variable {classes : List String}

mutual

/-- A type is written with the names of its own classes. -/
theorem TypeExpr.written (type : TypeExpr) (h : type.classNames ⊆ classes) :
    Written classes fun naming => type.textWith naming := by
  match type with
  | .void | .primitive _ | .variable _ => exact .fixed _
  | .array component =>
      simp only [textWith]
      exact .append (component.written h) (.fixed _)
  | .named name [] =>
      simp only [textWith]
      exact .name (List.cons_subset.1 h).1
  | .named name (arg :: rest) =>
      obtain ⟨hname, hargs⟩ := List.cons_subset.1 h
      simp only [textWith]
      exact .append (.append (.append (.name hname) (.fixed _))
        (TypeExpr.writtenAll (arg :: rest) hargs)) (.fixed _)
  | .wildcard upper lower =>
      obtain ⟨hupper, hlower⟩ := List.append_subset.1 h
      simp only [textWith]
      exact .append (.append (.fixed _) (TypeExpr.writtenBound _ upper hupper))
        (TypeExpr.writtenBound _ lower hlower)

theorem TypeExpr.writtenAll (types : List TypeExpr) (h : TypeExpr.listClassNames types ⊆ classes) :
    Written classes fun naming => TypeExpr.listTextWith naming types := by
  match types with
  | [] => exact .fixed _
  | [type] =>
      obtain ⟨htype, -⟩ := List.append_subset.1 h
      simpa only [listTextWith] using type.written htype
  | type :: next :: rest =>
      obtain ⟨htype, hrest⟩ := List.append_subset.1 h
      simp only [listTextWith]
      exact .append (.append (type.written htype) (.fixed _))
        (TypeExpr.writtenAll (next :: rest) hrest)

theorem TypeExpr.writtenBound (keyword : String) (bound : Option TypeExpr)
    (h : TypeExpr.optionClassNames bound ⊆ classes) :
    Written classes fun naming => TypeExpr.boundTextWith naming keyword bound := by
  match bound with
  | none => exact .fixed _
  | some type =>
      simp only [boundTextWith]
      exact .append (.fixed _) (type.written h)

end

theorem TypeExpr.forall_mem_written {types : List TypeExpr}
    (h : TypeExpr.listClassNames types ⊆ classes) :
    ∀ type ∈ types, Written classes fun naming => type.textWith naming := by
  induction types with
  | nil => simp
  | cons type rest ih =>
      obtain ⟨htype, hrest⟩ := List.append_subset.1 h
      exact List.forall_mem_cons.2 ⟨type.written htype, ih hrest⟩

theorem TypeParam.written (param : TypeParam) (h : param.classNames ⊆ classes) :
    Written classes fun naming => param.textWith naming := by
  unfold TypeParam.textWith
  cases hbounds : param.bounds with
  | nil => exact .fixed _
  | cons bound rest =>
      rw [TypeParam.classNames, hbounds] at h
      exact .append (.fixed _)
        ((allWritten_map (TypeExpr.forall_mem_written h)).intercalate " & ")

end Types

namespace Java

section Code

variable {classes : List String}

/-! ### Bodies -/

/-- A class literal names the class of a type, and none of the arguments. -/
theorem written_erasedText (type : TypeExpr) (h : type.classNames ⊆ classes) :
    Written classes fun naming => erasedText naming type := by
  match type with
  | .named name args => exact .name (List.cons_subset.1 h).1
  | .array component => exact .append (written_erasedText component h) (.fixed _)
  | .void | .primitive _ | .variable _ | .wildcard _ _ => exact TypeExpr.written _ h

theorem written_parenthesize {text : (String → String) → String} (h : Written classes text)
    (needed : Bool) : Written classes fun naming => parenthesize needed (text naming) := by
  cases needed with
  | false => exact h
  | true => exact .append (.append (.fixed _) h) (.fixed _)

mutual

/-- An expression is written with the names of its own classes. -/
theorem Expr.written (expr : Expr) (h : expr.classNames ⊆ classes) :
    Written classes fun naming => expr.text naming := by
  match expr with
  | .this | .variable _ | .null | .int _ | .string _ => exact .fixed _
  | .superCall args =>
      simp only [text]
      exact .append (.append (.fixed _) (Expr.writtenArgs args h)) (.fixed _)
  | .field target name =>
      simp only [text]
      exact .append (.append (written_parenthesize (target.written h) _) (.fixed _)) (.fixed _)
  | .staticField owner name =>
      simp only [text]
      exact .append (.append (.name (List.cons_subset.1 h).1) (.fixed _)) (.fixed _)
  | .call target method args =>
      obtain ⟨htarget, hargs⟩ := List.append_subset.1 h
      simp only [text]
      exact .append (.append (.append (.append (.append
        (written_parenthesize (target.written htarget) _) (.fixed _)) (.fixed _)) (.fixed _))
        (Expr.writtenArgs args hargs)) (.fixed _)
  | .localCall method args =>
      simp only [text]
      exact .append (.append (.fixed _) (Expr.writtenArgs args h)) (.fixed _)
  | .staticCall owner method args =>
      obtain ⟨howner, hargs⟩ := List.append_subset.1 h
      simp only [text]
      exact .append (.append (.append (.append (.append (.name (List.cons_subset.1 howner).1)
        (.fixed _)) (.fixed _)) (.fixed _)) (Expr.writtenArgs args hargs)) (.fixed _)
  | .newObject type diamond args =>
      obtain ⟨htype, hargs⟩ := List.append_subset.1 h
      simp only [text]
      exact .append (.append (.append (.append (.append (.fixed _) (type.toType.written htype))
        (.fixed _)) (.fixed _)) (Expr.writtenArgs args hargs)) (.fixed _)
  | .newSubclass type args =>
      obtain ⟨htype, hargs⟩ := List.append_subset.1 h
      simp only [text]
      exact .append (.append (.append (.append (.fixed _) (type.written htype)) (.fixed _))
        (Expr.writtenArgs args hargs)) (.fixed _)
  | .newArray component elements =>
      obtain ⟨htype, hargs⟩ := List.append_subset.1 h
      simp only [text]
      exact .append (.append (.append (.append (.fixed _) (component.written htype)) (.fixed _))
        (Expr.writtenArgs elements hargs)) (.fixed _)
  | .cast type expr =>
      obtain ⟨htype, hexpr⟩ := List.append_subset.1 h
      simp only [text]
      exact .append (.append (.append (.fixed _) (type.written htype)) (.fixed _))
        (expr.written hexpr)
  | .classLiteral type =>
      simp only [text]
      exact .append (written_erasedText type h) (.fixed _)
  | .compare op left right =>
      obtain ⟨hleft, hright⟩ := List.append_subset.1 h
      simp only [text]
      exact .append (.append (.append (.append (left.written hleft) (.fixed _)) (.fixed _))
        (.fixed _)) (right.written hright)

theorem Expr.writtenArgs (args : List Expr) (h : Expr.listClassNames args ⊆ classes) :
    Written classes fun naming => Expr.argsText naming args := by
  match args with
  | [] => exact .fixed _
  | [arg] =>
      obtain ⟨harg, -⟩ := List.append_subset.1 h
      simpa only [argsText] using arg.written harg
  | arg :: next :: rest =>
      obtain ⟨harg, hrest⟩ := List.append_subset.1 h
      simp only [argsText]
      exact .append (.append (arg.written harg) (.fixed _)) (Expr.writtenArgs (next :: rest) hrest)

end

mutual

/-- A statement is written with the names of its own classes. -/
theorem Stmt.written (stmt : Stmt) (depth : Nat) (h : stmt.classNames ⊆ classes) :
    Written classes fun naming => stmt.text naming depth := by
  match stmt with
  | .evaluate expr =>
      simp only [text]
      exact .append (.append (.fixed _) (expr.written h)) (.fixed _)
  | .result expr | .raise expr =>
      simp only [text]
      exact .append (.append (.append (.fixed _) (.fixed _)) (expr.written h)) (.fixed _)
  | .declare type name init =>
      obtain ⟨htype, hinit⟩ := List.append_subset.1 h
      simp only [text]
      exact .append (.append (.append (.append (.append (.append (.fixed _) (type.written htype))
        (.fixed _)) (.fixed _)) (.fixed _)) (init.written hinit)) (.fixed _)
  | .assign target value =>
      obtain ⟨htarget, hvalue⟩ := List.append_subset.1 h
      simp only [text]
      exact .append (.append (.append (.append (.fixed _) (target.written htarget)) (.fixed _))
        (value.written hvalue)) (.fixed _)
  | .when condition body =>
      obtain ⟨hcondition, hbody⟩ := List.append_subset.1 h
      simp only [text]
      exact .append (.append (.append (.append (.append (.append (.fixed _) (.fixed _))
        (condition.written hcondition)) (.fixed _)) (Stmt.writtenBody body _ hbody)) (.fixed _))
        (.fixed _)

theorem Stmt.writtenBody (body : List Stmt) (depth : Nat) (h : Stmt.listClassNames body ⊆ classes) :
    Written classes fun naming => Stmt.bodyText naming depth body := by
  match body with
  | [] => exact .fixed _
  | stmt :: rest =>
      obtain ⟨hstmt, hrest⟩ := List.append_subset.1 h
      simp only [bodyText]
      exact .append (stmt.written depth hstmt) (Stmt.writtenBody rest depth hrest)

end

/-! ### Members -/

theorem written_typeParamsText {params : List TypeParam}
    (h : params.flatMap TypeParam.classNames ⊆ classes) :
    Written classes fun naming => typeParamsText naming params := by
  unfold typeParamsText
  split
  · exact .fixed _
  · refine .append (.append (.fixed _) (AllWritten.intercalate (allWritten_map ?_) ", ")) (.fixed _)
    intro param hparam
    exact param.written fun name hname => h (List.mem_flatMap.2 ⟨param, hparam, hname⟩)

/-- Each parameter is written with the classes in its type, also one that takes any number of
arguments. -/
theorem allWritten_paramTexts (varargs : Bool) (params : List Parameter)
    (h : params.flatMap (·.type.classNames) ⊆ classes) :
    AllWritten classes fun naming => paramTexts naming varargs params := by
  induction params with
  | nil => exact allWritten_nil
  | cons param rest ih =>
      obtain ⟨name, type⟩ := param
      obtain ⟨htype, hrest⟩ := List.append_subset.1 h
      have hplain : Written classes fun naming => type.textWith naming ++ " " ++ name :=
        .append (.append (type.written htype) (.fixed _)) (.fixed _)
      cases rest with
      | cons next others =>
          simp only [paramTexts]
          exact (ih hrest).cons hplain
      | nil =>
          -- The last parameter loses its brackets if it takes any number of arguments.
          cases type with
          | array component =>
              simp only [paramTexts]
              exact allWritten_nil.cons
                (.append (.append (component.written htype) (.fixed _)) (.fixed _))
          | _ =>
              simp only [paramTexts]
              exact allWritten_nil.cons hplain

theorem Field.written (field : Field) (h : field.type.classNames ⊆ classes) :
    Written classes fun naming => field.text naming :=
  .append (.append (.append (.append (.fixed _) (field.type.written h)) (.fixed _)) (.fixed _))
    (.fixed _)

/-- A member is written with the names of its own classes. -/
theorem Member.written (member : Member) (h : member.classNames ⊆ classes) :
    Written classes fun naming => member.text naming := by
  simp only [classNames, List.append_subset] at h
  obtain ⟨⟨⟨⟨htypeParams, hreturn⟩, hparams⟩, hthrows⟩, hbody⟩ := h
  have htypeParamsText : Written classes fun naming =>
      if member.typeParams.isEmpty then "" else typeParamsText naming member.typeParams ++ " " := by
    split
    · exact .fixed _
    · exact .append (written_typeParamsText htypeParams) (.fixed _)
  have hreturnText : Written classes fun naming =>
      member.returnType.elim "" fun type => type.textWith naming ++ " " := by
    cases hreturnType : member.returnType with
    | none => exact .fixed _
    | some type =>
        rw [hreturnType] at hreturn
        exact .append (type.written hreturn) (.fixed _)
  have hparamsText := (allWritten_paramTexts member.varargs member.params hparams).intercalate ", "
  have hthrowsText : Written classes fun naming =>
      if member.throws.isEmpty then ""
      else " throws " ++ ", ".intercalate (member.throws.map (·.textWith naming)) := by
    split
    · exact .fixed _
    · exact .append (.fixed _)
        ((allWritten_map (TypeExpr.forall_mem_written hthrows)).intercalate ", ")
  have hsignature : Written classes fun naming => member.signature naming :=
    .append (.append (.append (.append (.append (.append (.append (.fixed _) htypeParamsText)
      hreturnText) (.fixed _)) (.fixed _)) hparamsText) (.fixed _)) hthrowsText
  exact .append (.append (.append (.append (.append (.fixed _) hsignature) (.fixed _))
    (Stmt.writtenBody member.body 2 hbody)) (.fixed _)) (.fixed _)

end Code

/-! ### Classes -/

/-- A part of the source text of a class, in which the same type variables are in scope. -/
structure Part where
  /-- The names of the type variables. -/
  typeVariables : List String
  /-- The qualified names of the classes that are mentioned in the part. -/
  classNames : List String
  /-- The text of the part, for each way of naming classes. -/
  text : (String → String) → String

namespace ClassDecl

variable (decl : ClassDecl)

/-- How the classes in the source text of a class are named. -/
def naming : String → String :=
  (Imports.ofClass decl).naming

/-- The classes that the source text of a class imports. -/
def importLines : List String :=
  (Imports.ofClass decl).lines

/-- What the source text of a class starts with, up to its documentation. No class is named there
but by the imports. -/
def preamble : String :=
  header ++ "\n" ++ (if decl.package.isEmpty then "" else "package " ++ decl.package ++ ";\n")
    ++ "\n"
    ++ (if decl.importLines.isEmpty then ""
      else String.join (decl.importLines.map fun name => "import " ++ name ++ ";\n") ++ "\n")
    ++ docText decl.doc

/-- The part that tells the type parameters, the superclass and the fields. -/
def head : Part where
  typeVariables := decl.typeParams.map (·.name)
  classNames := decl.typeParams.flatMap TypeParam.classNames
    ++ TypeExpr.optionClassNames decl.superclass ++ decl.fields.flatMap (·.type.classNames)
  text naming := decl.signature naming ++ " \x7b\n"
    ++ if decl.fields.isEmpty then "" else "\n" ++ String.join (decl.fields.map (·.text naming))

/-- The part of a member, in which its own type variables come before those of the class. -/
def part (member : Member) : Part where
  typeVariables := member.typeParams.map (·.name) ++ decl.typeParams.map (·.name)
  classNames := member.classNames
  text naming := "\n" ++ member.text naming

/-- The parts of the source text of a class, in order. -/
def parts : List Part :=
  decl.head :: decl.members.map decl.part

/-- The source text of a class consists of its parts, between a preamble and a closing brace. -/
theorem source_eq_parts :
    decl.source =
      decl.preamble ++ String.join (decl.parts.map (·.text decl.naming)) ++ "\x7d\n" := by
  simp only [parts, List.map_cons, List.map_map, String.join_cons, head, preamble, source,
    String.append_assoc]
  rfl

variable {decl : ClassDecl}

theorem written_head {classes : List String} (h : decl.head.classNames ⊆ classes) :
    Written classes decl.head.text := by
  simp only [head, List.append_subset] at h
  obtain ⟨⟨htypeParams, hsuperclass⟩, hfields⟩ := h
  have hsuperclassText : Written classes fun naming =>
      decl.superclass.elim "" fun type => " extends " ++ type.textWith naming := by
    cases hsuper : decl.superclass with
    | none => exact .fixed _
    | some type =>
        rw [hsuper] at hsuperclass
        exact .append (.fixed _) (type.written hsuperclass)
  have hsignature : Written classes fun naming => decl.signature naming :=
    .append (.append (.fixed _) (written_typeParamsText htypeParams)) hsuperclassText
  have hfieldsText : Written classes fun naming =>
      if decl.fields.isEmpty then ""
      else "\n" ++ String.join (decl.fields.map (·.text naming)) := by
    split
    · exact .fixed _
    · refine .append (.fixed _) (AllWritten.join (allWritten_map fun field hfield => ?_))
      exact field.written fun name hname => hfields (List.mem_flatMap.2 ⟨field, hfield, hname⟩)
  exact .append (.append hsignature (.fixed _)) hfieldsText

/-- Each part is written with the names of its own classes. -/
theorem written_of_mem_parts {part : Part} (h : part ∈ decl.parts) :
    Written part.classNames part.text := by
  rcases List.mem_cons.1 h with rfl | hmember
  · exact written_head (List.Subset.refl _)
  · obtain ⟨member, -, rfl⟩ := List.mem_map.1 hmember
    exact .append (.fixed _) (member.written (List.Subset.refl _))

/-- The classes that are collected in a class are those of its parts. -/
theorem classNames_eq_flatMap_parts (decl : ClassDecl) :
    decl.classNames = decl.parts.flatMap (·.classNames) := by
  rw [parts, List.flatMap_cons, List.flatMap_map]
  rfl

theorem classNames_subset_of_mem_parts {part : Part} (h : part ∈ decl.parts) :
    part.classNames ⊆ decl.classNames := fun name hname => by
  rw [classNames_eq_flatMap_parts]
  exact List.mem_flatMap.2 ⟨part, h, hname⟩

/-- The source text of a class is made of parts with the names of classes that have been collected,
behind a preamble without such names. -/
structure WrittenInParts (decl : ClassDecl) : Prop where
  source_eq : decl.source =
    decl.preamble ++ String.join (decl.parts.map (·.text decl.naming)) ++ "\x7d\n"
  written : ∀ part ∈ decl.parts, Written part.classNames part.text
  classNames_subset : ∀ part ∈ decl.parts, part.classNames ⊆ decl.classNames

theorem writtenInParts (decl : ClassDecl) : decl.WrittenInParts where
  source_eq := source_eq_parts decl
  written := fun _ => written_of_mem_parts
  classNames_subset := fun _ => classNames_subset_of_mem_parts

end ClassDecl

end Java

end FluentHttp
