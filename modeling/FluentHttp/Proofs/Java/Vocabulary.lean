import FluentHttp.Java.Syntax

/-!
# FluentHttp.Proofs.Java.Vocabulary

What code mentions: the names that it reads, the methods that it calls without a target, and types.

Code is within a vocabulary if it mentions nothing else. A local adds its name for the statements
after it, up to the end of the body that it stands in.
-/

namespace FluentHttp.Java

/-- What code may mention. -/
structure Vocabulary where
  names : String → Prop
  /-- Methods that may be called without a target. -/
  calls : String → Prop
  types : TypeExpr → Prop

/-- A vocabulary with more names. -/
def Vocabulary.addNames (words : Vocabulary) (locals : List String) : Vocabulary :=
  { words with names := fun name => words.names name ∨ name ∈ locals }

/-! ### Code within a vocabulary -/

mutual

/-- An expression mentions nothing outside of a vocabulary. -/
def Expr.Within (words : Vocabulary) : Expr → Prop
  | .this | .null | .int _ | .string _ => True
  | .variable name => words.names name
  | .field target _ => target.Within words
  | .superCall args => Expr.AllWithin words args
  | .call target _ args => target.Within words ∧ Expr.AllWithin words args
  | .localCall method args => words.calls method ∧ Expr.AllWithin words args
  | .staticField owner _ => words.types owner.toType
  | .staticCall owner _ args | .newObject owner _ args =>
    words.types owner.toType ∧ Expr.AllWithin words args
  | .newSubclass type args | .newArray type args =>
    words.types type ∧ Expr.AllWithin words args
  | .cast type expr => words.types type ∧ expr.Within words
  | .classLiteral type => words.types type
  | .compare _ left right => left.Within words ∧ right.Within words

/-- Expressions mention nothing outside of a vocabulary. -/
def Expr.AllWithin (words : Vocabulary) : List Expr → Prop
  | [] => True
  | expr :: rest => expr.Within words ∧ Expr.AllWithin words rest

end

/-- The local that a statement declares for the statements after it. -/
def Stmt.declares : Stmt → List String
  | .declare _ name _ => [name]
  | .evaluate _ | .result _ | .assign _ _ | .when _ _ | .raise _ => []

mutual

/-- A statement mentions nothing outside of a vocabulary. -/
def Stmt.Within (words : Vocabulary) : Stmt → Prop
  | .evaluate expr | .result expr | .raise expr => expr.Within words
  | .declare type _ init => words.types type ∧ init.Within words
  | .assign target value => target.Within words ∧ value.Within words
  | .when condition body => condition.Within words ∧ BodyWithin words body

/-- A body mentions nothing outside of a vocabulary, to which each local adds its name. -/
def BodyWithin (words : Vocabulary) : List Stmt → Prop
  | [] => True
  | stmt :: rest => stmt.Within words ∧ BodyWithin (words.addNames stmt.declares) rest

end

/-! ### Lists -/

variable {words : Vocabulary}

@[simp] theorem Vocabulary.addNames_nil : words.addNames [] = words := by
  simp [addNames]

theorem Vocabulary.addNames_addNames (locals others : List String) :
    (words.addNames locals).addNames others = words.addNames (locals ++ others) := by
  simp [addNames, or_assoc]

theorem Expr.allWithin_iff {exprs : List Expr} :
    Expr.AllWithin words exprs ↔ ∀ expr ∈ exprs, expr.Within words := by
  induction exprs with
  | nil => simp [AllWithin]
  | cons expr rest ih => rw [AllWithin, ih, List.forall_mem_cons]

/-- Names that may be mentioned may be passed. -/
theorem Expr.allWithin_variables_iff {params : List Parameter} :
    Expr.AllWithin words (params.map (.variable ·.name)) ↔
      ∀ param ∈ params, words.names param.name := by
  rw [allWithin_iff, List.forall_mem_map]
  rfl

theorem bodyWithin_result_iff {expr : Expr} :
    BodyWithin words [.result expr] ↔ expr.Within words :=
  and_iff_left trivial

/-- What follows some statements may mention their locals. -/
theorem bodyWithin_append {body rest : List Stmt} :
    BodyWithin words (body ++ rest) ↔
      BodyWithin words body ∧ BodyWithin (words.addNames (body.flatMap Stmt.declares)) rest := by
  induction body generalizing words with
  | nil => simp [BodyWithin]
  | cons stmt body ih =>
      rw [List.cons_append, BodyWithin, BodyWithin, ih, Vocabulary.addNames_addNames,
        List.flatMap_cons, and_assoc]

end FluentHttp.Java
