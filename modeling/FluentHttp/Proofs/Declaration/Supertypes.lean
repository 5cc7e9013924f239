import FluentHttp.Declaration.Supertypes
import Mathlib.Data.List.Chain

/-!
# FluentHttp.Proofs.Declaration.Supertypes

The search for a marker among the supertypes of a class finds one exactly if a chain of class
references leads there (`MarkerChain`).

The search drops the declarations of a class once it has expanded it. What carries the proof is that
this never hides a chain (`LeadsTo.drop`): a chain that comes back to the class can be cut short at
its last visit, and behind that it starts at one of the supertypes that were queued.
-/

namespace FluentHttp

/-! ### Chains of class references -/

/-- A type is the superclass of a class or one of its interfaces. -/
def TypeDecl.Extends (decl : TypeDecl) (type : TypeExpr) : Prop :=
  decl.superclass = some type ∨ type ∈ decl.interfaces

/-- The first declaration of a name. -/
def IsFirstDeclared (types : List TypeDecl) (name : String) (decl : TypeDecl) : Prop :=
  decl.name = name ∧
    ∃ before after, types = before ++ decl :: after ∧ ∀ other ∈ before, other.name ≠ name

/-- From a class reference to one of its supertypes. The class is no library type, and its first
declaration counts. -/
def Inherits (types : List TypeDecl) (ref next : ClassRef) : Prop :=
  ref.library? = none ∧ ∃ decl, IsFirstDeclared types ref.name decl ∧ decl.Extends next.toType

/-- A chain of class references, each a supertype of the one before it, up to a library type of the
given marker. -/
structure MarkerChain (types : List TypeDecl) (marker : LibraryType) (chain : List ClassRef) :
    Prop where
  steps : chain.IsChain (Inherits types)
  last : ∃ ref ∈ chain.getLast?, ∃ library, ref.library? = some library ∧
    library.marker = some marker

/-- The declarations of classes that are no library types. -/
def userDeclared (types : List TypeDecl) : List TypeDecl :=
  types.filter fun decl => (LibraryType.ofName? decl.name).isNone

/-! ### References that lead to a marker -/

theorem TypeExpr.class?_eq_some_iff {type : TypeExpr} {ref : ClassRef} :
    type.class? = some ref ↔ type = ref.toType := by
  cases ref with
  | mk name args => cases type <;> simp [class?, ClassRef.toType]

theorem TypeDecl.extends_iff {decl : TypeDecl} {type : TypeExpr} :
    decl.Extends type ↔ type ∈ decl.supertypes := by
  cases hsuper : decl.superclass <;> simp [Extends, supertypes, hsuper, eq_comm]

theorem isFirstDeclared_iff {types : List TypeDecl} {name : String} {decl : TypeDecl} :
    IsFirstDeclared types name decl ↔ types.find? (·.name == name) = some decl := by
  simp [IsFirstDeclared, List.find?_eq_some_iff_append]

/-- A class reference is a library type of the marker or has a supertype that leads there. -/
inductive LeadsTo (types : List TypeDecl) (marker : LibraryType) : ClassRef → Prop
  | library {ref : ClassRef} {library : LibraryType} (hlibrary : ref.library? = some library)
      (hmarker : library.marker = some marker) : LeadsTo types marker ref
  | inherits {ref next : ClassRef} {decl : TypeDecl} (hlibrary : ref.library? = none)
      (hdecl : types.find? (·.name == ref.name) = some decl)
      (hnext : next.toType ∈ decl.supertypes) (h : LeadsTo types marker next) :
      LeadsTo types marker ref

/-- A reference leads to a marker exactly if a chain starts with it. -/
theorem leadsTo_iff_chain {types : List TypeDecl} {marker : LibraryType} {ref : ClassRef} :
    LeadsTo types marker ref ↔ ∃ rest, MarkerChain types marker (ref :: rest) := by
  constructor
  · intro h
    induction h with
    | @library ref library hlibrary hmarker =>
        exact ⟨[], .singleton ref, ref, rfl, library, hlibrary, hmarker⟩
    | @inherits ref next decl hlibrary hdecl hnext _ ih =>
        obtain ⟨rest, hsteps, hlast⟩ := ih
        have hstep : Inherits types ref next :=
          ⟨hlibrary, decl, isFirstDeclared_iff.2 hdecl, TypeDecl.extends_iff.2 hnext⟩
        exact ⟨next :: rest, .cons_cons hstep hsteps, by simpa using hlast⟩
  · rintro ⟨rest, hsteps, hlast⟩
    induction rest generalizing ref with
    | nil =>
        obtain ⟨last, hlast, library, hlibrary, hmarker⟩ := hlast
        obtain rfl : ref = last := by simpa using hlast
        exact .library hlibrary hmarker
    | cons next rest ih =>
        obtain ⟨⟨hlibrary, decl, hdecl, hnext⟩, hsteps⟩ := List.isChain_cons_cons.1 hsteps
        have hrest : LeadsTo types marker next := ih hsteps (by simpa using hlast)
        exact .inherits hlibrary (isFirstDeclared_iff.1 hdecl) (TypeDecl.extends_iff.1 hnext) hrest

/-- Declarations of library types are never looked at. -/
theorem LeadsTo.mono {types others : List TypeDecl} {marker : LibraryType} {ref : ClassRef}
    (h : LeadsTo types marker ref)
    (hsub : ∀ name decl, LibraryType.ofName? name = none →
      types.find? (·.name == name) = some decl → others.find? (·.name == name) = some decl) :
    LeadsTo others marker ref := by
  induction h with
  | library hlibrary hmarker => exact .library hlibrary hmarker
  | inherits hlibrary hdecl hnext _ ih =>
      exact .inherits hlibrary (hsub _ _ hlibrary hdecl) hnext ih

/-! ### Dropping the declarations of an expanded class -/

theorem find?_declarationsBut {types : List TypeDecl} {name other : String} (h : other ≠ name) :
    (declarationsBut name types).find? (·.name == other) = types.find? (·.name == other) := by
  rw [declarationsBut, List.find?_filter]
  congr 1
  funext decl
  by_cases hdecl : decl.name = other
  · simp [hdecl, h]
  · simp [hdecl]

theorem LeadsTo.of_declarationsBut {types : List TypeDecl} {name : String} {marker : LibraryType}
    {ref : ClassRef} (h : LeadsTo (declarationsBut name types) marker ref) :
    LeadsTo types marker ref := by
  refine h.mono fun other decl _ hdecl => ?_
  have hne : other ≠ name := by
    have hmem := List.mem_of_find?_eq_some hdecl
    have hname := List.find?_some hdecl
    simp only [declarationsBut, List.mem_filter, bne_iff_ne, beq_iff_eq] at hmem hname
    exact hname ▸ hmem.2
  rwa [find?_declarationsBut hne] at hdecl

/-- What leads to a marker still does without the declarations of one class, or else one of the
supertypes of that class does. -/
theorem LeadsTo.drop {types : List TypeDecl} {name : String} {decl : TypeDecl}
    {marker : LibraryType} {ref : ClassRef} (h : LeadsTo types marker ref)
    (hdecl : types.find? (·.name == name) = some decl) :
    LeadsTo (declarationsBut name types) marker ref ∨
      ∃ next : ClassRef, next.toType ∈ decl.supertypes ∧
        LeadsTo (declarationsBut name types) marker next := by
  induction h with
  | library hlibrary hmarker => exact .inl (.library hlibrary hmarker)
  | @inherits ref next decl' hlibrary hdecl' hnext _ ih =>
      rcases ih with ih | ih
      · -- the rest of the chain keeps clear of the class: is this its last visit there?
        by_cases hname : ref.name = name
        · obtain rfl : decl = decl' := by simpa [hname, hdecl] using hdecl'
          exact .inr ⟨next, hnext, ih⟩
        · rw [← find?_declarationsBut hname] at hdecl'
          exact .inl (.inherits hlibrary hdecl' hnext ih)
      · exact .inr ih

/-! ### The search -/

theorem exists_toType_mem_cons {type : TypeExpr} {rest : List TypeExpr} {P : ClassRef → Prop} :
    (∃ ref : ClassRef, ref.toType ∈ type :: rest ∧ P ref) ↔
      (∃ ref, type.class? = some ref ∧ P ref) ∨ ∃ ref : ClassRef, ref.toType ∈ rest ∧ P ref := by
  simp only [List.mem_cons, or_and_right, exists_or, TypeExpr.class?_eq_some_iff]
  simp only [eq_comm]

theorem leadsTo_library_iff {types : List TypeDecl} {marker : LibraryType} {ref : ClassRef}
    {library : LibraryType} (h : ref.library? = some library) :
    LeadsTo types marker ref ↔ library.reaches marker = true := by
  rw [LibraryType.reaches, beq_iff_eq]
  constructor
  · intro hleads
    cases hleads with
    | library h' hmarker =>
        obtain rfl := Option.some.inj (h.symm.trans h')
        exact hmarker
    | inherits h' => simp [h] at h'
  · exact .library h

theorem not_leadsTo_of_undeclared {types : List TypeDecl} {marker : LibraryType} {ref : ClassRef}
    (hlibrary : ref.library? = none) (hdecl : types.find? (·.name == ref.name) = none) :
    ¬LeadsTo types marker ref := by
  intro h
  cases h with
  | library h' => simp [hlibrary] at h'
  | inherits _ h' => simp [hdecl] at h'

theorem leadsTo_declared_iff {types : List TypeDecl} {marker : LibraryType} {ref : ClassRef}
    {decl : TypeDecl} (hlibrary : ref.library? = none)
    (hdecl : types.find? (·.name == ref.name) = some decl) :
    LeadsTo types marker ref ↔
      ∃ next : ClassRef, next.toType ∈ decl.supertypes ∧ LeadsTo types marker next := by
  constructor
  · intro h
    cases h with
    | library h' => simp [hlibrary] at h'
    | @inherits _ next _ _ hdecl' hnext h =>
        obtain rfl := Option.some.inj (hdecl.symm.trans hdecl')
        exact ⟨next, hnext, h⟩
  · rintro ⟨next, hnext, h⟩
    exact .inherits hlibrary hdecl hnext h

/-- Expanding a class and dropping its declarations changes nothing about what is found. -/
theorem exists_leadsTo_expand {types : List TypeDecl} {marker : LibraryType} {ref : ClassRef}
    {decl : TypeDecl} {rest : List TypeExpr} (hlibrary : ref.library? = none)
    (hdecl : types.find? (·.name == ref.name) = some decl) :
    (∃ next : ClassRef, next.toType ∈ rest ++ decl.supertypes ∧
        LeadsTo (declarationsBut ref.name types) marker next) ↔
      LeadsTo types marker ref ∨
        ∃ next : ClassRef, next.toType ∈ rest ∧ LeadsTo types marker next := by
  simp only [List.mem_append, or_and_right, exists_or]
  constructor
  · rintro (⟨next, hnext, h⟩ | ⟨next, hnext, h⟩)
    · exact .inr ⟨next, hnext, h.of_declarationsBut⟩
    · exact .inl (.inherits hlibrary hdecl hnext h.of_declarationsBut)
  · rintro (h | ⟨next, hnext, h⟩)
    · obtain ⟨next, hnext, h⟩ := (leadsTo_declared_iff hlibrary hdecl).1 h
      rcases h.drop hdecl with h | h
      · exact .inr ⟨next, hnext, h⟩
      · exact .inr h
    · rcases h.drop hdecl with h | h
      · exact .inl ⟨next, hnext, h⟩
      · exact .inr h

/-- The search answers whether one of the pending types leads to the marker. -/
theorem leadTo_eq_true_iff {marker : LibraryType} {pending : List TypeExpr}
    {types : List TypeDecl} :
    leadTo marker pending types = true ↔
      ∃ ref : ClassRef, ref.toType ∈ pending ∧ LeadsTo types marker ref := by
  fun_induction leadTo marker pending types with
  | case1 types => simp
  | case2 types type rest hclass ih =>
      -- no class at all
      rw [ih, exists_toType_mem_cons]
      simp [hclass]
  | case3 types type rest ref hclass library hlibrary ih =>
      -- a library type is not expanded
      rw [Bool.or_eq_true, ih, exists_toType_mem_cons]
      simp [hclass, leadsTo_library_iff hlibrary]
  | case4 types type rest ref hclass hlibrary hdecl ih =>
      -- not declared, or expanded before
      rw [ih, exists_toType_mem_cons]
      simp [hclass, not_leadsTo_of_undeclared hlibrary hdecl]
  | case5 types type rest ref hclass hlibrary decl hdecl ih =>
      -- its supertypes are queued and its declarations dropped
      rw [ih, exists_leadsTo_expand hlibrary hdecl, exists_toType_mem_cons]
      simp [hclass]

/-- Declarations that a round gives for library types are never looked at. -/
theorem leadsTo_userDeclared_iff {types : List TypeDecl} {marker : LibraryType} {ref : ClassRef} :
    LeadsTo (userDeclared types) marker ref ↔ LeadsTo types marker ref := by
  have hfind : ∀ name, LibraryType.ofName? name = none →
      (userDeclared types).find? (·.name == name) = types.find? (·.name == name) := by
    intro name hname
    rw [userDeclared, List.find?_filter]
    congr 1
    funext decl
    by_cases hdecl : decl.name = name
    · simp [hdecl, hname]
    · simp [hdecl]
  constructor
  · exact fun h => h.mono fun name decl hname hdecl => hfind name hname ▸ hdecl
  · exact fun h => h.mono fun name decl hname hdecl => (hfind name hname).trans hdecl

namespace Round

/-- A class reaches a marker by a chain that starts at one of its supertypes. -/
theorem declReaches_iff {round : Round} {decl : TypeDecl} {marker : LibraryType} :
    round.declReaches decl marker = true ↔
      ∃ first rest, decl.Extends first.toType ∧
        MarkerChain round.types marker (first :: rest) := by
  simp only [declReaches, leadTo_eq_true_iff, leadsTo_iff_chain, TypeDecl.extends_iff,
    exists_and_left]

/-- A type reaches a marker by a chain that starts with it. -/
theorem typeReaches_iff {round : Round} {type : TypeExpr} {marker : LibraryType} :
    round.typeReaches type marker = true ↔
      ∃ first rest, first.toType = type ∧ MarkerChain round.types marker (first :: rest) := by
  simp only [typeReaches, leadTo_eq_true_iff, leadsTo_iff_chain, List.mem_singleton,
    exists_and_left]

/-- **Reaching a marker is having a chain of supertypes to it.** This holds of every round, with
cycles, repeated names and undeclared supertypes: the search always ends, and its answer is yes
exactly if there is such a chain. Declarations of library types make no difference to it. -/
theorem reaches_iff_chain (round : Round) (decl : TypeDecl) (type : TypeExpr)
    (marker : LibraryType) :
    (round.declReaches decl marker = true ↔
      ∃ first rest, decl.Extends first.toType ∧
        MarkerChain round.types marker (first :: rest)) ∧
    (round.typeReaches type marker = true ↔
      ∃ first rest, first.toType = type ∧ MarkerChain round.types marker (first :: rest)) ∧
    ({ round with types := userDeclared round.types } : Round).declReaches decl marker =
      round.declReaches decl marker ∧
    ({ round with types := userDeclared round.types } : Round).typeReaches type marker =
      round.typeReaches type marker := by
  refine ⟨declReaches_iff, typeReaches_iff, ?_, ?_⟩
  · rw [Bool.eq_iff_iff, declReaches, declReaches]
    simp only [leadTo_eq_true_iff, leadsTo_userDeclared_iff]
  · rw [Bool.eq_iff_iff, typeReaches, typeReaches]
    simp only [leadTo_eq_true_iff, leadsTo_userDeclared_iff]

end Round

end FluentHttp
