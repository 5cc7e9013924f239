import FluentHttp.Proofs.Java.Written
import FluentHttp.Proofs.Text.Segments
import Mathlib.Data.List.Nodup
import Mathlib.Data.List.TakeWhile

/-!
# FluentHttp.Proofs.Java.Imports

Which class a simple name stands for in a source file.

The classes of a file are taken up in the order of their qualified names, and each takes its simple
name unless that is taken. So a simple name belongs to the class of the file if that bears it, and
else to the first class that does (`ClassDecl.Owns`). From this it follows that no two classes are
named alike, and what is imported (`ClassDecl.namesClasses`).
-/

namespace FluentHttp

/-! ### Qualified names -/

/-- Whether a name has a dot and no empty segment. -/
def isQualified (name : String) : Bool :=
  let segments := Text.segments '.' name
  decide (2 ≤ segments.length) && segments.all (!·.isEmpty)

theorem afterLast_eq_self_of_not_mem {separator : Char} {text : List Char}
    (h : separator ∉ text) : afterLast separator text = text := by
  have hall : ∀ c ∈ text.reverse, (c != separator) = true := fun c hc => by
    simpa using ne_of_mem_of_not_mem (List.mem_reverse.1 hc) h
  rw [afterLast, List.takeWhile_eq_self_iff.2 hall, List.reverse_reverse]

theorem afterLast_subset (separator : Char) (text : List Char) :
    afterLast separator text ⊆ text := fun _ hc =>
  List.mem_reverse.1 ((List.takeWhile_sublist _).subset (List.mem_reverse.1 hc))

theorem not_mem_afterLast (separator : Char) (text : List Char) :
    separator ∉ afterLast separator text := by
  intro h
  have hne := List.mem_takeWhile_imp (List.mem_reverse.1 h)
  exact absurd hne (by simp)

/-- What has no separator belongs to the end of any text that it is the end of. -/
theorem afterLast_append {separator : Char} (before : List Char) {text : List Char}
    (h : separator ∉ text) :
    afterLast separator (before ++ text) = afterLast separator before ++ text := by
  have hall : ∀ c ∈ text.reverse, (c != separator) = true := fun c hc => by
    simpa using ne_of_mem_of_not_mem (List.mem_reverse.1 hc) h
  rw [afterLast, List.reverse_append, List.takeWhile_append_of_pos hall, List.reverse_append,
    List.reverse_reverse, afterLast]

/-- What stands in front of the last dot of a name is the package, and no dot follows it. -/
theorem toList_eq_package_append {name : String} (h : '.' ∈ name.toList) :
    name.toList = (ClassRef.package { name }).toList ++ '.' :: afterLast '.' name.toList ∧
      '.' ∉ afterLast '.' name.toList := by
  obtain ⟨last, before, hreverse, hlast⟩ := List.eq_append_cons_of_mem (List.mem_reverse.2 h)
  have hname : name.toList = before.reverse ++ '.' :: last.reverse := by
    simpa using congrArg List.reverse hreverse
  have hall : ∀ c ∈ last, (c != '.') = true := fun c hc => by
    simpa using ne_of_mem_of_not_mem hc hlast
  have hafter : afterLast '.' name.toList = last.reverse := by
    rw [afterLast, hreverse, List.takeWhile_append_of_pos hall]
    simp
  have hpackage : (ClassRef.package { name }).toList = before.reverse := by
    rw [ClassRef.package, hreverse, List.dropWhile_append_of_pos hall]
    simp
  rw [hafter, hpackage]
  exact ⟨hname, by simpa using hlast⟩

/-- A class has a package if there is something in front of the last dot of its name. -/
def HasPackage (name : String) : Prop :=
  ClassRef.package { name } ≠ ""

instance (name : String) : Decidable (HasPackage name) :=
  inferInstanceAs (Decidable (_ ≠ _))

theorem HasPackage.mem_dot {name : String} (h : HasPackage name) : '.' ∈ name.toList := by
  by_contra hdot
  have hall : ∀ c ∈ name.toList.reverse, (c != '.') = true := fun c hc => by
    simpa using ne_of_mem_of_not_mem (List.mem_reverse.1 hc) hdot
  exact h (by rw [ClassRef.package, List.dropWhile_eq_nil_iff.2 hall]; rfl)

/-- A simple name has no dot. -/
theorem not_mem_dot_simpleName {name : String} (h : '.' ∈ name.toList) :
    '.' ∉ (simpleName name).toList := fun hdot =>
  (toList_eq_package_append h).2 (afterLast_subset '$' _ (by simpa [simpleName] using hdot))

theorem simpleName_ne_of_mem_dot {name other : String} (hname : '.' ∈ name.toList)
    (hother : '.' ∈ other.toList) : simpleName name ≠ other := by
  rintro rfl
  exact not_mem_dot_simpleName hname hother

namespace Java

/-! ### Sorted names -/

theorem mem_insertName {name other : String} {names : List String} :
    other ∈ insertName name names ↔ other = name ∨ other ∈ names := by
  induction names with
  | nil => simp [insertName]
  | cons next rest ih =>
      rw [insertName]
      split
      · exact List.mem_cons
      · split
        · next heq => simp [heq]
        · rw [List.mem_cons, ih, List.mem_cons, or_left_comm]

theorem mem_sortNames {name : String} {names : List String} :
    name ∈ sortNames names ↔ name ∈ names := by
  induction names with
  | nil => rfl
  | cons next rest ih => rw [sortNames, List.foldr_cons, mem_insertName, ← sortNames, ih,
      List.mem_cons]

theorem pairwise_insertName {names : List String} (h : names.Pairwise (· < ·)) (name : String) :
    (insertName name names).Pairwise (· < ·) := by
  induction names with
  | nil => exact List.pairwise_singleton _ _
  | cons next rest ih =>
      obtain ⟨hnext, hrest⟩ := List.pairwise_cons.1 h
      rw [insertName]
      split
      · next hlt =>
          refine List.pairwise_cons.2 ⟨fun other hother => ?_, h⟩
          rcases List.mem_cons.1 hother with rfl | hother
          · exact hlt
          · exact String.lt_trans hlt (hnext other hother)
      · next hlt =>
          split
          · exact h
          · next hne =>
              refine List.pairwise_cons.2 ⟨fun other hother => ?_, ih hrest⟩
              rcases mem_insertName.1 hother with rfl | hother
              · refine String.not_le.1 fun hle => hne ?_
                exact String.le_antisymm hle (String.not_lt.1 hlt)
              · exact hnext other hother

theorem pairwise_sortNames (names : List String) : (sortNames names).Pairwise (· < ·) := by
  induction names with
  | nil => exact List.Pairwise.nil
  | cons name rest ih => exact pairwise_insertName ih name

/-- The first name of a kind in ascending names is the least. -/
theorem find?_eq_some_iff_of_pairwise {names : List String} (h : names.Pairwise (· < ·))
    {p : String → Bool} {name : String} :
    names.find? p = some name ↔
      name ∈ names ∧ p name ∧ ∀ other ∈ names, p other → name ≤ other := by
  induction names with
  | nil => simp
  | cons next rest ih =>
      obtain ⟨hnext, hrest⟩ := List.pairwise_cons.1 h
      cases hp : p next with
      | true =>
          rw [List.find?_cons_of_pos hp, Option.some.injEq]
          constructor
          · rintro rfl
            refine ⟨List.mem_cons_self, hp, fun other hother _ => ?_⟩
            rcases List.mem_cons.1 hother with rfl | hother
            · exact String.not_lt.1 (String.lt_irrefl _)
            · exact String.not_lt.1 (String.lt_asymm (hnext other hother))
          · rintro ⟨hname, -, hleast⟩
            rcases List.mem_cons.1 hname with rfl | hname
            · rfl
            · exact absurd (hnext name hname) (String.not_lt.2 (hleast next List.mem_cons_self hp))
      | false =>
          rw [List.find?_cons_of_neg (by simp [hp]), ih hrest]
          have hne : ∀ other, p other = true → other ≠ next := by
            rintro other hother rfl
            simp [hp] at hother
          constructor
          · rintro ⟨hname, hpname, hleast⟩
            refine ⟨List.mem_cons_of_mem _ hname, hpname, fun other hother hpother => ?_⟩
            exact hleast other (List.mem_of_ne_of_mem (hne other hpother) hother) hpother
          · rintro ⟨hname, hpname, hleast⟩
            exact ⟨List.mem_of_ne_of_mem (hne name hpname) hname, hpname,
              fun other hother => hleast other (List.mem_cons_of_mem _ hother)⟩

/-! ### Claims -/

namespace Imports

theorem claim_of_ne_none {package : String} {imports : Imports} {qualified : String}
    (h : imports.claims.lookup (simpleName qualified) ≠ none) :
    claim package imports qualified = imports :=
  if_pos (Option.isSome_iff_ne_none.2 h)

theorem claim_of_eq_none {package : String} {imports : Imports} {qualified : String}
    (h : imports.claims.lookup (simpleName qualified) = none) :
    claim package imports qualified =
      { claims := imports.claims ++ [(simpleName qualified, qualified)]
        lines := imports.lines ++ if needsImport package qualified then [qualified] else [] } :=
  if_neg (Option.isSome_eq_false_iff.2 (Option.isNone_iff_eq_none.2 h) ▸ Bool.false_ne_true)

/-- A class takes its simple name if that is still to be had. -/
theorem lookup_claim (package : String) (imports : Imports) (qualified simple : String) :
    (claim package imports qualified).claims.lookup simple =
      (imports.claims.lookup simple).or
        (if simpleName qualified = simple then some qualified else none) := by
  by_cases hfree : imports.claims.lookup (simpleName qualified) = none
  · have hsingle : [(simpleName qualified, qualified)].lookup simple =
        if simpleName qualified = simple then some qualified else none := by
      split
      · next heq => rw [heq, List.lookup_cons_self]
      · next hne => rw [List.lookup_cons, beq_eq_false_iff_ne.2 (Ne.symm hne), List.lookup_nil]
    rw [claim_of_eq_none hfree, List.lookup_append, hsingle]
  · rw [claim_of_ne_none hfree]
    split
    · next heq => rw [Option.or_of_isSome (Option.isSome_iff_ne_none.2 (heq ▸ hfree))]
    · rw [Option.or_none]

theorem find?_simpleName_cons (next : String) (rest : List String) (simple : String) :
    (next :: rest).find? (simpleName · == simple) =
      if simpleName next = simple then some next else rest.find? (simpleName · == simple) := by
  split
  · next heq => exact List.find?_cons_of_pos (beq_iff_eq.2 heq)
  · next hne => exact List.find?_cons_of_neg fun heq => hne (beq_iff_eq.1 heq)

/-- The classes that are taken up leave each simple name to the first that bears it. -/
theorem lookup_foldl_claim (package : String) (names : List String) (imports : Imports)
    (simple : String) :
    (names.foldl (claim package) imports).claims.lookup simple =
      (imports.claims.lookup simple).or (names.find? (simpleName · == simple)) := by
  induction names generalizing imports with
  | nil => rw [List.foldl_nil, List.find?_nil, Option.or_none]
  | cons name rest ih =>
      rw [List.foldl_cons, ih, lookup_claim, Option.or_assoc, find?_simpleName_cons]
      split <;> rfl

/-- The classes that get an import line, in order: those that take their simple names and have to be
imported. -/
theorem lines_foldl_claim (package : String) (names : List String) (imports : Imports) :
    ∃ added, added.Sublist names ∧
      (names.foldl (claim package) imports).lines = imports.lines ++ added ∧
      ∀ name, name ∈ added ↔
        needsImport package name ∧ imports.claims.lookup (simpleName name) = none ∧
          names.find? (simpleName · == simpleName name) = some name := by
  induction names generalizing imports with
  | nil => exact ⟨[], List.nil_sublist _, by simp, by simp⟩
  | cons next rest ih =>
      obtain ⟨added, hsublist, hlines, hmem⟩ := ih (claim package imports next)
      have hlookup := lookup_claim package imports next
      by_cases hfree : imports.claims.lookup (simpleName next) = none
      · have hclaim : (claim package imports next).lines =
            imports.lines ++ if needsImport package next then [next] else [] :=
          congrArg lines (claim_of_eq_none hfree)
        refine ⟨(if needsImport package next then [next] else []) ++ added, ?_, ?_, fun name => ?_⟩
        · split
          · exact hsublist.cons_cons next
          · exact hsublist.cons next
        · rw [List.foldl_cons, hlines, hclaim, List.append_assoc]
        · rw [List.mem_append, hmem, hlookup, find?_simpleName_cons]
          by_cases hsame : simpleName next = simpleName name
          · -- Only the class that has just taken the name is added under it.
            rw [hsame] at hfree
            by_cases heq : next = name
            · subst heq
              simp [hfree]
            · simp [hfree, hsame, heq, Ne.symm heq]
          · have hne : name ≠ next := fun heq => hsame (heq ▸ rfl)
            simp [hsame, hne]
      · -- A name that is taken adds nothing, and is not free for a later class either.
        rw [claim_of_ne_none hfree] at hlines hmem
        refine ⟨added, hsublist.cons _, ?_, fun name => ?_⟩
        · rw [List.foldl_cons, claim_of_ne_none hfree, hlines]
        · rw [hmem, find?_simpleName_cons]
          by_cases hsame : simpleName next = simpleName name
          · rw [hsame] at hfree
            simp [hfree]
          · rw [if_neg hsame]

end Imports

/-! ### The classes of a source file -/

namespace ClassDecl

/-- In the source file of a class, a simple name is left to one class: to the class of the file if
that has the name, and else to the first of the classes mentioned that do. -/
structure Owns (decl : ClassDecl) (simple name : String) : Prop where
  eq_qualifiedName : simple = decl.name → name = decl.qualifiedName
  first : simple ≠ decl.name → name ∈ decl.classNames ∧ simpleName name = simple ∧
    ∀ other ∈ decl.classNames, simpleName other = simple → name ≤ other

section Names

variable {decl : ClassDecl}

theorem find?_sortNames_eq_some_iff {simple name : String} :
    (sortNames decl.classNames).find? (simpleName · == simple) = some name ↔
      name ∈ decl.classNames ∧ simpleName name = simple ∧
        ∀ other ∈ decl.classNames, simpleName other = simple → name ≤ other := by
  rw [find?_eq_some_iff_of_pairwise (pairwise_sortNames _)]
  simp only [mem_sortNames, beq_iff_eq]

/-- A claim says to which class a simple name is left. -/
theorem lookup_ofClass_eq_some_iff {simple name : String} :
    (Imports.ofClass decl).claims.lookup simple = some name ↔ decl.Owns simple name := by
  rw [Imports.ofClass, Imports.lookup_foldl_claim]
  by_cases hself : simple = decl.name
  · rw [hself, List.lookup_cons_self, Option.some_or, Option.some.injEq]
    exact ⟨fun heq => ⟨fun _ => heq.symm, fun hne => absurd rfl hne⟩,
      fun howns => (howns.eq_qualifiedName rfl).symm⟩
  · rw [List.lookup_cons, beq_eq_false_iff_ne.2 hself, List.lookup_nil, Option.none_or,
      find?_sortNames_eq_some_iff]
    exact ⟨fun hfirst => ⟨fun heq => absurd heq hself, fun _ => hfirst⟩,
      fun howns => howns.first hself⟩

theorem Owns.eq {simple name other : String} (hname : decl.Owns simple name)
    (hother : decl.Owns simple other) : name = other :=
  Option.some.inj ((lookup_ofClass_eq_some_iff.2 hname).symm.trans
    (lookup_ofClass_eq_some_iff.2 hother))

theorem naming_of_owns {name : String} (howns : decl.Owns (simpleName name) name)
    (hnested : '$' ∉ name.toList) : decl.naming name = simpleName name :=
  if_pos ⟨lookup_ofClass_eq_some_iff.2 howns, by simpa [isNested] using hnested⟩

theorem naming_of_not_owns {name : String}
    (h : ¬ (decl.Owns (simpleName name) name ∧ '$' ∉ name.toList)) : decl.naming name = name :=
  if_neg fun hclaim => h ⟨lookup_ofClass_eq_some_iff.1 hclaim.1,
    by simpa [isNested] using hclaim.2⟩

/-- The import lines are among the ascending names, and are of the classes that own their simple
names and are out of sight otherwise. -/
theorem importLines_spec (decl : ClassDecl) :
    decl.importLines.Sublist (sortNames decl.classNames) ∧
      ∀ name, name ∈ decl.importLines ↔
        needsImport decl.package name ∧ simpleName name ≠ decl.name ∧
          decl.Owns (simpleName name) name := by
  obtain ⟨added, hsublist, hlines, hmem⟩ := Imports.lines_foldl_claim decl.package
    (sortNames decl.classNames) { claims := [(decl.name, decl.qualifiedName)] }
  have hadded : decl.importLines = added := hlines
  refine ⟨hadded ▸ hsublist, fun name => ?_⟩
  rw [hadded, hmem]
  by_cases hself : simpleName name = decl.name
  · rw [hself, List.lookup_cons_self]
    simp
  · have howns : decl.Owns (simpleName name) name ↔
        (sortNames decl.classNames).find? (simpleName · == simpleName name) = some name := by
      rw [find?_sortNames_eq_some_iff]
      exact ⟨fun howns => howns.first hself,
        fun hfirst => ⟨fun heq => absurd heq hself, fun _ => hfirst⟩⟩
    rw [List.lookup_cons, beq_eq_false_iff_ne.2 hself, howns]
    simp [hself]

theorem mem_importLines_iff {name : String} :
    name ∈ decl.importLines ↔
      needsImport decl.package name ∧ simpleName name ≠ decl.name ∧
        decl.Owns (simpleName name) name :=
  (importLines_spec decl).2 name

theorem pairwise_importLines (decl : ClassDecl) : decl.importLines.Pairwise (· < ·) :=
  (pairwise_sortNames _).sublist (importLines_spec decl).1

/-- An imported class is the one that owns its simple name. -/
theorem eq_of_mem_importLines {name imported : String} (hline : imported ∈ decl.importLines)
    (howns : decl.Owns (simpleName name) name) (hsame : simpleName imported = simpleName name) :
    imported = name := by
  have himported := (mem_importLines_iff.1 hline).2.2
  rw [hsame] at himported
  exact himported.eq howns

/-- A class that is not nested and not imported is of `java.lang` or of the same package. -/
theorem package_eq_of_not_needsImport {package name : String} (h : ¬needsImport package name)
    (hpackage : HasPackage name) (hnested : '$' ∉ name.toList) :
    ClassRef.package { name } = "java.lang" ∨ ClassRef.package { name } = package := by
  simp only [needsImport, isNested] at h
  have hne : ClassRef.package { name } ≠ "" := hpackage
  by_contra hhidden
  simp_all

end Names

/-! ### What the text of a file says -/

end ClassDecl

end Java

end FluentHttp
