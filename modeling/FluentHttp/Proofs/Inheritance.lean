import FluentHttp.Proofs.Api.Members
import FluentHttp.Proofs.Generated
import Mathlib.Logic.Relation

/-!
# FluentHttp.Proofs.Inheritance

When a generated class inherits from itself.

A wrapper is named after its builder, and its base after the library class that the builder extends.
Both names are in one package and start alike, and they are not compared. So a builder that has the
simple name of a library builder has a wrapper that takes the place of a base, and it can end up
below itself (`Session.exists_inherits_self_iff`).
-/

namespace FluentHttp

open Api Java Relation

/-! ### Inheritance -/

/-- One of the classes has a given qualified name, and the superclass has another one. -/
def Java.Extends (classes : List ClassDecl) (name base : String) : Prop :=
  ∃ decl ∈ classes, decl.qualifiedName = name ∧ ∃ args, decl.superclass = some (.named base args)

/-- What superclasses lead to in one step or more. -/
def Java.InheritsFrom (classes : List ClassDecl) : String → String → Prop :=
  TransGen (Extends classes)

/-- A builder has a given simple name, and the base of its wrapper is named after another one. -/
def Api.WrapperExtends (builders : AliasTable) (name base : String) : Prop :=
  ∃ entry ∈ builders, entry.2.simpleName = name ∧ baseName entry.2 = base

/-- The names that the bases of wrappers are named after. The base of most wrappers is the entry
class. -/
def Api.baseNames : List String :=
  ["", "AbstractBodyParam", "BodyParam", "FormParam", "JsonParam", "JsonArrayParam", "NoBodyParam"]

namespace Api

variable {config : Config} {registry : Registry}

theorem baseName_mem_baseNames (decl : TypeDecl) : baseName decl ∈ baseNames := by
  unfold baseName
  cases decl.superclass.bind TypeExpr.library? with
  | none => decide
  | some library => cases library <;> decide

/-- With a package, the wrapper of a builder has a name like that of a base. -/
theorem qualifiedName_wrapper (hpackage : config.package ≠ "") (decl : TypeDecl) :
    (wrapper config decl).qualifiedName = config.qualified (entryName ++ decl.simpleName) :=
  qualifiedName_eq_qualified hpackage rfl

theorem exists_name_eq {generated : ClassDecl} (h : generated ∈ classesOf config registry) :
    ∃ simple, generated.name = entryName ++ simple := by
  have hname : generated.name ∈ (classesOf config registry).map (·.name) := List.mem_map_of_mem h
  rw [map_name_classesOf] at hname
  obtain ⟨simple, -, hsimple⟩ := List.mem_map.1 hname
  exact ⟨simple, hsimple.symm⟩

/-- The superclass of the entry class is no generated class. -/
theorem qualifiedName_ne_of_mem {generated : ClassDecl}
    (h : generated ∈ classesOf config registry) :
    generated.qualifiedName ≠ "rxhttp.BaseRxHttp" := by
  obtain ⟨simple, hname⟩ := exists_name_eq h
  unfold ClassDecl.qualifiedName
  rw [hname]
  intro heq
  split at heq
  · have hprefix : "RxHttp".toList <+: "rxhttp.BaseRxHttp".toList :=
      ⟨simple.toList, by rw [← heq, entryName, String.toList_append]⟩
    simp at hprefix
  · have hinfix : ".RxHttp".toList <:+: "rxhttp.BaseRxHttp".toList :=
      ⟨generated.package.toList, simple.toList, by rw [← heq]; simp [entryName]⟩
    simp [List.infix_cons_iff] at hinfix

/-- Without a package no class has the name of a base, which starts with a dot. -/
theorem qualifiedName_ne_qualified {generated : ClassDecl}
    (h : generated ∈ classesOf config registry) (hpackage : config.package = "") (name : String) :
    generated.qualifiedName ≠ config.qualified name := by
  obtain ⟨simple, hname⟩ := exists_name_eq h
  have hnone : generated.package.isEmpty = true := by
    rw [package_of_mem_classesOf h, hpackage]
    rfl
  unfold ClassDecl.qualifiedName Config.qualified
  rw [if_pos hnone, hname, hpackage]
  intro heq
  have hchars := congrArg String.toList heq
  simp [entryName] at hchars

/-! ### Steps -/

/-- Only wrappers and the entry class extend a class. -/
theorem extends_classesOf_cases {name base : String}
    (h : Extends (classesOf config registry) name base) :
    base = "rxhttp.BaseRxHttp" ∨
      ∃ entry ∈ registry.params, (wrapper config entry.2).qualifiedName = name ∧
        config.qualified (entryName ++ baseName entry.2) = base := by
  obtain ⟨decl, hmem, hname, args, hsuperclass⟩ := h
  rcases mem_classesOf_iff.1 hmem with ⟨entry, hentry, heq⟩ | heq | heq
  · obtain ⟨baseArgs, hbase, -⟩ := superclass_wrapper config entry.2
    rw [heq, hbase] at hsuperclass
    rw [heq] at hname
    exact .inr ⟨entry, hentry, hname, (TypeExpr.named.inj (Option.some.inj hsuperclass)).1⟩
  · rw [heq] at hsuperclass
    exact .inl (TypeExpr.named.inj (Option.some.inj hsuperclass)).1.symm
  · rw [heq] at hsuperclass
    cases hsuperclass

/-- A class that extends one of the classes is the wrapper of a builder, as its base is then. -/
theorem wrapperExtends_of_extends {name base : String}
    (h : Extends (classesOf config registry) name base)
    (hbase : ∃ decl ∈ classesOf config registry, decl.qualifiedName = base) :
    config.package ≠ "" ∧ ∃ simple baseSimple,
      config.qualified (entryName ++ simple) = name ∧
        config.qualified (entryName ++ baseSimple) = base ∧
          WrapperExtends registry.params simple baseSimple := by
  obtain ⟨decl, hmem, hdecl⟩ := hbase
  rcases extends_classesOf_cases h with hlibrary | ⟨entry, hentry, hname, heq⟩
  · exact absurd (hdecl.trans hlibrary) (qualifiedName_ne_of_mem hmem)
  · have hpackage : config.package ≠ "" := by
      intro hnone
      exact qualifiedName_ne_qualified hmem hnone _ (hdecl.trans heq.symm)
    rw [qualifiedName_wrapper hpackage] at hname
    exact ⟨hpackage, _, _, hname, heq, entry, hentry, rfl, rfl⟩

/-- With a package, a wrapper extends a class that is named after the base. -/
theorem extends_of_wrapperExtends (hpackage : config.package ≠ "") {simple base : String}
    (h : WrapperExtends registry.params simple base) :
    Extends (classesOf config registry) (config.qualified (entryName ++ simple))
      (config.qualified (entryName ++ base)) := by
  obtain ⟨entry, hentry, hsimple, hbase⟩ := h
  obtain ⟨args, hsuperclass, -⟩ := superclass_wrapper config entry.2
  refine ⟨wrapper config entry.2, mem_classesOf_iff.2 (.inl ⟨entry, hentry, rfl⟩), ?_, args, ?_⟩
  · rw [qualifiedName_wrapper hpackage, hsimple]
  · rw [hsuperclass, hbase]

/-! ### Chains -/

theorem qualified_entryName_inj {simple other : String}
    (h : config.qualified (entryName ++ simple) = config.qualified (entryName ++ other)) :
    simple = other :=
  (String.append_right_inj _).1 ((String.append_right_inj _).1 h)

/-- A chain of superclasses that ends in one of the classes is a chain of wrappers. -/
theorem transGen_wrapperExtends_of_inherits {name base : String}
    (h : InheritsFrom (classesOf config registry) name base)
    (hbase : ∃ decl ∈ classesOf config registry, decl.qualifiedName = base) :
    config.package ≠ "" ∧ ∃ simple baseSimple,
      config.qualified (entryName ++ simple) = name ∧
        config.qualified (entryName ++ baseSimple) = base ∧
          TransGen (WrapperExtends registry.params) simple baseSimple := by
  unfold InheritsFrom at h
  induction h using TransGen.head_induction_on with
  | single hstep =>
      obtain ⟨hpackage, simple, baseSimple, hname, heq, hwrapper⟩ :=
        wrapperExtends_of_extends hstep hbase
      exact ⟨hpackage, simple, baseSimple, hname, heq, .single hwrapper⟩
  | head hstep hrest ih =>
      obtain ⟨_, ⟨decl, hmem, hdecl, -⟩, -⟩ := TransGen.head'_iff.1 hrest
      obtain ⟨hpackage, simple, middle, hname, hmiddle, hwrapper⟩ :=
        wrapperExtends_of_extends hstep ⟨decl, hmem, hdecl⟩
      obtain ⟨-, other, baseSimple, hother, heq, hchain⟩ := ih
      obtain rfl := qualified_entryName_inj (hmiddle.trans hother.symm)
      exact ⟨hpackage, simple, baseSimple, hname, heq, .head hwrapper hchain⟩

/-- A generated class inherits from itself exactly if there is a package and wrappers extend each
other in a circle. -/
theorem exists_inherits_self_classesOf_iff :
    (∃ name, InheritsFrom (classesOf config registry) name name) ↔
      config.package ≠ "" ∧ ∃ simple, TransGen (WrapperExtends registry.params) simple simple := by
  constructor
  · intro h
    obtain ⟨name, hcircle⟩ := h
    obtain ⟨_, ⟨decl, hmem, hdecl, -⟩, -⟩ := TransGen.head'_iff.1 hcircle
    obtain ⟨hpackage, simple, baseSimple, hname, hbase, hchain⟩ :=
      transGen_wrapperExtends_of_inherits hcircle ⟨decl, hmem, hdecl⟩
    obtain rfl := qualified_entryName_inj (hname.trans hbase.symm)
    exact ⟨hpackage, simple, hchain⟩
  · intro h
    obtain ⟨hpackage, simple, hcircle⟩ := h
    exact ⟨_, hcircle.lift (fun simple => config.qualified (entryName ++ simple))
      fun _ _ => extends_of_wrapperExtends hpackage⟩

/-- There is no circle without a builder that has the name of a base. -/
theorem not_transGen_wrapperExtends_self {builders : AliasTable}
    (h : ∀ entry ∈ builders, entry.2.simpleName ∉ baseNames) (simple : String) :
    ¬TransGen (WrapperExtends builders) simple simple := by
  intro hcircle
  obtain ⟨_, ⟨entry, hentry, hsimple, -⟩, -⟩ := TransGen.head'_iff.1 hcircle
  obtain ⟨_, -, other, -, -, hbase⟩ := TransGen.tail'_iff.1 hcircle
  apply h entry hentry
  rw [hsimple, ← hbase]
  exact baseName_mem_baseNames other.2

end Api

namespace Session

variable {session : Session} {round : Round} {classes : List ClassDecl}

/-- **When a generated class inherits from itself.** A class of a round inherits from itself exactly
if the wrappers of its builders extend each other in a circle, where the wrapper of a builder bears
its simple name, and the base is named after the library class that the builder extends. This takes
a builder with the simple name of such a library class, or an empty one. -/
theorem exists_inherits_self_iff (h : session.outcomeOf round = .generated classes) :
    ((∃ name, InheritsFrom classes name name) ↔
      session.config.package ≠ "" ∧
        ∃ simple, TransGen (WrapperExtends round.builders) simple simple) ∧
    ((∀ entry ∈ round.builders, entry.2.simpleName ∉ baseNames) →
      ∀ name, ¬InheritsFrom classes name name) := by
  obtain ⟨-, rfl⟩ := eq_classesOf_of_outcomeOf h
  have hiff := @exists_inherits_self_classesOf_iff session.config round.registry
  refine ⟨hiff, fun hnames name hcircle => ?_⟩
  obtain ⟨-, simple, hwrappers⟩ := hiff.1 ⟨name, hcircle⟩
  exact not_transGen_wrapperExtends_self hnames simple hwrappers

theorem exists_inherits_self_iff_sampleRound :
    ∃ classes, ({} : Session).outcomeOf sampleRound = .generated classes ∧
      (∀ entry ∈ sampleRound.builders, entry.2.simpleName ∉ baseNames) ∧
      ∀ name, ¬InheritsFrom classes name name := by
  have hnames : ∀ entry ∈ sampleRound.builders, entry.2.simpleName ∉ baseNames := by decide
  exact ⟨_, outcomeOf_sampleRound, hnames,
    (exists_inherits_self_iff outcomeOf_sampleRound).2 hnames⟩

/-- A builder that extends the library builder of its own simple name. -/
def bodyBuilder : TypeDecl :=
  { name := "com.example.BodyParam"
    modifiers := { isPublic := true }
    superclass := some (.ofLibrary .bodyParam [])
    annotation := some (.param "postBody") }

/-- A round with this builder only. -/
def bodyRound : Round :=
  { types := [bodyBuilder] }

/-- The wrapper of such a builder extends itself. -/
theorem inherits_self_bodyRound :
    ∃ classes, ({} : Session).outcomeOf bodyRound = .generated classes ∧
      classes.map (·.qualifiedName) =
        ["rxhttp.wrapper.param.RxHttpBodyParam", "rxhttp.wrapper.param.RxHttp",
          "rxhttp.wrapper.param.RxHttpExtensions"] ∧
      classes.head?.bind (·.superclass) =
        some (.named "rxhttp.wrapper.param.RxHttpBodyParam" []) ∧
      InheritsFrom classes "rxhttp.wrapper.param.RxHttpBodyParam"
        "rxhttp.wrapper.param.RxHttpBodyParam" := by
  have hfailures : bodyRound.failures {} = [] := by
    refine Round.failures_eq_nil_of_no_fields rfl ?_
    intro decl hdecl category hcategory
    obtain rfl := List.mem_singleton.1 hdecl
    obtain rfl := Option.some.inj hcategory
    exact bodyRound.typeError?_param_eq_none rfl rfl rfl rfl rfl (by decide)
  have hclear : ¬Clashes {} bodyRound.registry :=
    not_clashes_of_no_wrappers (by decide) (by decide)
  have hbuilders : bodyRound.registry.params = [("postBody", bodyBuilder)] := by decide
  have hextends : WrapperExtends bodyRound.registry.params "BodyParam" "BodyParam" := by
    rw [hbuilders]
    exact ⟨_, List.mem_singleton_self _, by decide, by decide⟩
  exact ⟨_, outcomeOf_of_not_clashes {} hfailures hclear, by decide, by decide,
    .single (extends_of_wrapperExtends (by decide) hextends)⟩

end Session

end FluentHttp
