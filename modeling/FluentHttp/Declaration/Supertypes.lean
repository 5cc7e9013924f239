import FluentHttp.Declaration.Basic

/-!
# FluentHttp.Declaration.Supertypes

Whether the supertypes of a class lead to a library type. The search goes from class to declaration
by name. A library class answers for itself, even where a declaration of its name exists, and ends
its branch; so does a class that is not declared.

Declarations may be cyclic. Once a class has been expanded its declarations are out of the search,
which is why it ends.
-/

namespace FluentHttp

/-- The declarations of all classes but one. -/
def declarationsBut (name : String) (types : List TypeDecl) : List TypeDecl :=
  types.filter (·.name != name)

/-- The declarations of all classes but one are fewer, if that one is declared. -/
theorem length_declarationsBut_lt {types : List TypeDecl} {name : String} {decl : TypeDecl}
    (h : types.find? (·.name == name) = some decl) :
    (declarationsBut name types).length < types.length := by
  have hmem := List.mem_of_find?_eq_some h
  have hname := List.find?_some h
  refine List.length_filter_lt_length_iff_exists.2 ⟨decl, hmem, ?_⟩
  simpa using hname

/-- Whether one of the pending types is, or inherits through the declarations of `types`, a library
type that reaches `marker`. -/
def leadTo (marker : LibraryType) (pending : List TypeExpr) (types : List TypeDecl) : Bool :=
  match pending with
  | [] => false
  | type :: rest =>
    match type.class? with
    | none => leadTo marker rest types
    | some ref =>
      match ref.library? with
      | some library => library.reaches marker || leadTo marker rest types
      | none =>
        match _h : types.find? (·.name == ref.name) with
        | none => leadTo marker rest types
        | some decl =>
          leadTo marker (rest ++ decl.supertypes) (declarationsBut ref.name types)
termination_by (types.length, pending.length)
decreasing_by
  · exact Prod.Lex.right _ (by simp)
  · exact Prod.Lex.right _ (by simp)
  · exact Prod.Lex.right _ (by simp)
  · exact Prod.Lex.left _ _ (length_declarationsBut_lt ‹_›)

namespace Round

/-- Whether the supertypes of a class lead to a library type that reaches `marker`. -/
def declReaches (round : Round) (decl : TypeDecl) (marker : LibraryType) : Bool :=
  leadTo marker decl.supertypes round.types

/-- Whether a type is, or inherits, a library type that reaches `marker`. -/
def typeReaches (round : Round) (type : TypeExpr) (marker : LibraryType) : Bool :=
  leadTo marker [type] round.types

end Round

end FluentHttp
