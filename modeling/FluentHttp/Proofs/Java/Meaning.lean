import FluentHttp.Proofs.Java.Imports

/-!
# FluentHttp.Proofs.Java.Meaning

What the names in source text denote.

A name with a dot denotes the class of that name. A simple name denotes the first of what can be
called so: a type variable in scope, the class of the file, an imported class, a class of the same
package, and a class of `java.lang` (`ClassDecl.meaning`). The imports heed this order but for two
cases: they do not know the type variables, and they leave a simple name to a class of `java.lang`
although a class of the same package has it too (`ClassDecl.Shadowed`). In all other cases a class
is denoted by the name that is printed for it (`ClassDecl.meaning_naming_iff`).
-/

namespace FluentHttp

/-! ### Packages -/

/-- The name of a class that is not nested consists of its package and its simple name. -/
theorem eq_package_append_simpleName {name : String} (h : '.' ∈ name.toList)
    (hnested : '$' ∉ name.toList) :
    name = ClassRef.package { name } ++ "." ++ simpleName name := by
  obtain ⟨hname, -⟩ := toList_eq_package_append h
  have hsimple : (simpleName name).toList = afterLast '.' name.toList := by
    have hlast : '$' ∉ afterLast '.' name.toList := fun hmem =>
      hnested (afterLast_subset '.' name.toList hmem)
    rw [simpleName, String.toList_ofList, afterLast_eq_self_of_not_mem hlast]
  rw [← String.toList_inj, String.toList_append, String.toList_append, hsimple,
    List.append_assoc]
  exact hname

/-- A class in a package has one, even if its name has further dots. -/
theorem hasPackage_append {package : String} (h : package ≠ "") (name : String) :
    HasPackage (package ++ "." ++ name) := by
  intro hpackage
  have hdot : '.' ∈ (package ++ "." ++ name).toList := by simp
  obtain ⟨hname, hlast⟩ := toList_eq_package_append hdot
  rw [hpackage, String.toList_empty, List.nil_append] at hname
  cases hchars : package.toList with
  | nil => exact h (String.toList_eq_nil_iff.1 hchars)
  | cons c rest =>
      -- The only dot of the name would be its first character.
      rw [String.toList_append, String.toList_append, hchars] at hname hlast
      have htail := (List.cons_eq_cons.1 hname).2
      have hmem : '.' ∈ rest ++ ".".toList ++ name.toList := by simp
      exact hlast (htail ▸ hmem)

theorem eq_of_append_dot_eq {package other simple : String}
    (h : package ++ "." ++ simple = other ++ "." ++ simple) : package = other :=
  (String.append_left_inj _).1 ((String.append_left_inj _).1 h)

namespace Java

/-! ### Meanings -/

/-- What a name in source text denotes. -/
inductive Meaning where
  | typeVariable (name : String)
  | classNamed (name : String)
  deriving DecidableEq, Repr

namespace ClassDecl

/-- The class of a simple name in the package of a class. -/
def sibling (decl : ClassDecl) (simple : String) : String :=
  decl.package ++ "." ++ simple

/-- What a name denotes in the source text of a class, where some type variables are in scope. Of
the classes of the same package, those are known that the class mentions. -/
def meaning (decl : ClassDecl) (scope : List String) (text : String) : Meaning :=
  if '.' ∈ text.toList then .classNamed text
  else if text ∈ scope then .typeVariable text
  else if text = decl.name then .classNamed decl.qualifiedName
  else
    match decl.importLines.find? (simpleName · == text) with
    | some name => .classNamed name
    | none =>
      if decl.sibling text ∈ decl.classNames then .classNamed (decl.sibling text)
      else .classNamed ("java.lang" ++ "." ++ text)

/-- A class is shadowed if it is printed by its simple name, and this denotes a type variable or,
instead of a class of `java.lang`, one of the same package. -/
def Shadowed (decl : ClassDecl) (scope : List String) (name : String) : Prop :=
  decl.Owns (simpleName name) name ∧ '$' ∉ name.toList ∧
    (simpleName name ∈ scope ∨
      ClassRef.package { name } = "java.lang" ∧ decl.package ≠ "java.lang" ∧
        decl.sibling (simpleName name) ∈ decl.classNames)

variable {decl : ClassDecl}

/-- A simple name denotes the only imported class that has it. -/
theorem find?_importLines_eq_some_iff {simple name : String} :
    decl.importLines.find? (simpleName · == simple) = some name ↔
      name ∈ decl.importLines ∧ simpleName name = simple := by
  rw [find?_eq_some_iff_of_pairwise (pairwise_importLines decl)]
  simp only [beq_iff_eq]
  constructor
  · rintro ⟨hline, hsame, -⟩
    exact ⟨hline, hsame⟩
  · rintro ⟨hline, rfl⟩
    refine ⟨hline, rfl, fun other hother hsame => ?_⟩
    obtain rfl := eq_of_mem_importLines hother (mem_importLines_iff.1 hline).2.2 hsame
    exact String.le_refl other

/-- The class of a file is denoted by its own name. -/
theorem not_shadowed_of_eq_name {name : String} (hdot : '.' ∈ name.toList) {scope : List String}
    (hvariable : simpleName name ∉ scope) (hself : simpleName name = decl.name) :
    ¬decl.Shadowed scope name := by
  rintro ⟨howns, hnested, hmem | ⟨hhome, hpackage, -⟩⟩
  · exact hvariable hmem
  · have hclass := howns.eq_qualifiedName hself
    rw [qualifiedName, ← hself] at hclass
    split at hclass
    · exact simpleName_ne_of_mem_dot hdot hdot hclass.symm
    · have hname := (eq_package_append_simpleName hdot hnested).symm.trans hclass
      rw [hhome] at hname
      exact hpackage (eq_of_append_dot_eq hname).symm

/-- A class that is not imported although it owns its simple name is of the same package or of
`java.lang`. -/
theorem meaning_simpleName_of_not_needsImport {name : String} (h : HasPackage name)
    (hmem : name ∈ decl.classNames) (howns : decl.Owns (simpleName name) name)
    (hnested : '$' ∉ name.toList) {scope : List String}
    (hvariable : simpleName name ∉ scope) (hself : simpleName name ≠ decl.name)
    (hneeds : ¬needsImport decl.package name) :
    decl.meaning scope (simpleName name) = .classNamed name ↔
      ¬decl.Shadowed scope name := by
  have hname := eq_package_append_simpleName h.mem_dot hnested
  have hnone : decl.importLines.find? (simpleName · == simpleName name) = none := by
    refine List.find?_eq_none.2 fun other hother heq => hneeds ?_
    obtain rfl := eq_of_mem_importLines hother howns (beq_iff_eq.1 heq)
    exact (mem_importLines_iff.1 hother).1
  have hhome := package_eq_of_not_needsImport hneeds h hnested
  rw [meaning, if_neg (not_mem_dot_simpleName h.mem_dot), if_neg hvariable, if_neg hself, hnone]
  by_cases hsame : ClassRef.package { name } = decl.package
  · have hsibling : decl.sibling (simpleName name) = name := by
      rw [sibling, ← hsame]
      exact hname.symm
    rw [hsibling, if_pos hmem, eq_self_iff_true, true_iff]
    rintro ⟨-, -, hcaptured | ⟨hlang, hpackage, -⟩⟩
    · exact hvariable hcaptured
    · exact hpackage (hsame.symm.trans hlang)
  · have hlang := hhome.resolve_right hsame
    rw [hlang] at hname hsame
    by_cases hsibling : decl.sibling (simpleName name) ∈ decl.classNames
    · rw [if_pos hsibling, Meaning.classNamed.injEq]
      have hne : decl.sibling (simpleName name) ≠ name := fun heq =>
        hsame (eq_of_append_dot_eq (heq.trans hname)).symm
      simp only [hne, false_iff, not_not]
      exact ⟨howns, hnested, .inr ⟨hlang, Ne.symm hsame, hsibling⟩⟩
    · rw [if_neg hsibling, ← hname, eq_self_iff_true, true_iff]
      rintro ⟨-, -, hcaptured | ⟨-, -, hmentioned⟩⟩
      · exact hvariable hcaptured
      · exact hsibling hmentioned

/-- What is printed for a class denotes it unless it is shadowed. -/
theorem meaning_naming_iff {name : String} (h : HasPackage name) (hmem : name ∈ decl.classNames)
    (scope : List String) :
    decl.meaning scope (decl.naming name) = .classNamed name ↔
      ¬decl.Shadowed scope name := by
  by_cases howns : decl.Owns (simpleName name) name ∧ '$' ∉ name.toList
  · obtain ⟨howns, hnested⟩ := howns
    rw [naming_of_owns howns hnested]
    by_cases hvariable : simpleName name ∈ scope
    · rw [meaning, if_neg (not_mem_dot_simpleName h.mem_dot), if_pos hvariable]
      have hshadowed : decl.Shadowed scope name := ⟨howns, hnested, .inl hvariable⟩
      simp [hshadowed]
    · by_cases hself : simpleName name = decl.name
      · have hclass := howns.eq_qualifiedName hself
        rw [meaning, if_neg (not_mem_dot_simpleName h.mem_dot), if_neg hvariable, if_pos hself,
          ← hclass]
        exact iff_of_true rfl (not_shadowed_of_eq_name h.mem_dot hvariable hself)
      · by_cases hneeds : needsImport decl.package name
        · have hline := find?_importLines_eq_some_iff.2
            ⟨mem_importLines_iff.2 ⟨hneeds, hself, howns⟩, rfl⟩
          rw [meaning, if_neg (not_mem_dot_simpleName h.mem_dot), if_neg hvariable, if_neg hself,
            hline]
          refine iff_of_true rfl ?_
          rintro ⟨-, -, hcaptured | ⟨hlang, -⟩⟩
          · exact hvariable hcaptured
          · simp [needsImport, hlang] at hneeds
        · exact meaning_simpleName_of_not_needsImport h hmem howns hnested hvariable hself hneeds
  · rw [naming_of_not_owns howns, meaning, if_pos h.mem_dot]
    exact iff_of_true rfl fun hshadowed => howns ⟨hshadowed.1, hshadowed.2.1⟩

/-- A class of `java.lang` is shadowed by a class of the same package, although that one is printed
in full. -/
example :
    let decl : ClassDecl :=
      { package := "site.view"
        name := "Page"
        members := [{
          name := "title"
          returnType := some (.named "java.lang.String" [])
          throws := [.named "site.view.String" []] }] }
    decl.naming "java.lang.String" = "String" ∧
      decl.naming "site.view.String" = "site.view.String" ∧
      decl.meaning [] "String" = .classNamed "site.view.String" := by
  decide +kernel

end ClassDecl

end Java

end FluentHttp
