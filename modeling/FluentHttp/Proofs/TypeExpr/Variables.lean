import FluentHttp.TypeExpr.Basic

/-!
# FluentHttp.Proofs.TypeExpr.Variables

The type variables that a type mentions.
-/

namespace FluentHttp

namespace TypeExpr

mutual

/-- The names of the type variables in a type. -/
def variableNames : TypeExpr → List String
  | .void | .primitive _ => []
  | .named _ args => variableNamesOfAll args
  | .array component => component.variableNames
  | .variable name => [name]
  | .wildcard upper lower => variableNamesOfOption upper ++ variableNamesOfOption lower

/-- The names of the type variables in some types. -/
def variableNamesOfAll : List TypeExpr → List String
  | [] => []
  | type :: rest => type.variableNames ++ variableNamesOfAll rest

/-- The names of the type variables in a type that may be absent. -/
def variableNamesOfOption : Option TypeExpr → List String
  | none => []
  | some type => type.variableNames

end

/-- A type mentions no type variables but the named ones. -/
def MentionsOnly (names : List String) (type : TypeExpr) : Prop :=
  type.variableNames ⊆ names

instance (names : List String) (type : TypeExpr) : Decidable (type.MentionsOnly names) :=
  inferInstanceAs (Decidable (type.variableNames ⊆ names))

variable {names : List String}

theorem variableNamesOfAll_subset_iff {types : List TypeExpr} :
    variableNamesOfAll types ⊆ names ↔ ∀ type ∈ types, type.MentionsOnly names := by
  induction types with
  | nil => simp [variableNamesOfAll]
  | cons type rest ih =>
      rw [variableNamesOfAll, List.append_subset, ih, List.forall_mem_cons]
      rfl

theorem MentionsOnly.mono {type : TypeExpr} (h : type.MentionsOnly names) {others : List String}
    (hsubset : names ⊆ others) : type.MentionsOnly others :=
  List.Subset.trans h hsubset

@[simp] theorem mentionsOnly_array {component : TypeExpr} :
    (array component).MentionsOnly names ↔ component.MentionsOnly names :=
  Iff.rfl

@[simp] theorem mentionsOnly_variable {name : String} :
    (TypeExpr.variable name).MentionsOnly names ↔ name ∈ names := by
  simp [MentionsOnly, variableNames]

@[simp] theorem mentionsOnly_named {name : String} {args : List TypeExpr} :
    (named name args).MentionsOnly names ↔ ∀ arg ∈ args, arg.MentionsOnly names :=
  variableNamesOfAll_subset_iff

@[simp] theorem mentionsOnly_ofLibrary {library : LibraryType} {args : List TypeExpr} :
    (ofLibrary library args).MentionsOnly names ↔ ∀ arg ∈ args, arg.MentionsOnly names :=
  mentionsOnly_named

/-- A class applied to type variables mentions these. -/
theorem mentionsOnly_applied {name : String} {typeParams : List TypeParam} :
    (named name (typeParams.map TypeParam.toVariable)).MentionsOnly (typeParams.map (·.name)) := by
  rw [mentionsOnly_named, List.forall_mem_map]
  intro typeParam hmem
  exact mentionsOnly_variable.2 (List.mem_map_of_mem hmem)

end TypeExpr

end FluentHttp
